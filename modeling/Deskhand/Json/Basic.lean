/-
  Deskhand.Json.Basic

  JSON values.

  The tree of a JSON document. A number is an integer as long as it fits 64 bits with its sign or
  without one, and a binary number otherwise. The members of an object that is read stand in
  ascending order of their keys, each key once, the last value given for a key being kept; the
  fields of a record that is written stand in the order in which the record names them.
-/

import Deskhand.Keyed
import Deskhand.Number.Binary

namespace Deskhand

/-- A number of a document. -/
inductive Json.Number where
  | integer (value : Int)
  | float (value : Number.Double)
  deriving DecidableEq

/-- A JSON value. -/
inductive Json where
  | null
  | bool (value : Bool)
  | number (value : Json.Number)
  | string (value : String)
  | array (items : List Json)
  | object (members : List (String × Json))

namespace Json

instance : Inhabited Json := ⟨.null⟩

/-- The object of a list of members in any order. -/
def ofMembers (members : List (String × Json)) : Json := .object (Keyed.ofList members)

def get? (key : String) : Json → Option Json
  | .object members => Keyed.get? key members
  | _ => none

def asString? : Json → Option String
  | .string value => some value
  | _ => none

def asArray? : Json → Option (List Json)
  | .array items => some items
  | _ => none

def ofInt (n : Int) : Json := .number (.integer n)

def ofNat (n : Nat) : Json := .number (.integer n)

def ofStrings (texts : List String) : Json := .array (texts.map .string)

/-- What a value is, as messages name it. -/
def kind : Json → String
  | .null => "null"
  | .bool _ => "a boolean"
  | .number _ => "a number"
  | .string _ => "a string"
  | .array _ => "an array"
  | .object _ => "an object"

/-- The binary number nearest to a number of a document. -/
def Number.toDouble : Json.Number → Number.Double
  | .integer value => .ofInt Number.binary64 value
  | .float value => value

end Json

end Deskhand
