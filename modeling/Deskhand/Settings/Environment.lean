/-
  Deskhand.Settings.Environment

  The environment.

  Variables by name. Their values are bytes, and a value that is no text is an error for whoever
  asks for it. A blank value counts as none. Numbers and flags may have blanks around them.
-/

import Deskhand.Number.Reading
import Deskhand.Settings.Error
import Deskhand.Text.Blank
import Deskhand.Text.Quoted
import Deskhand.Text.Search
import Deskhand.Text.Utf8

namespace Deskhand

open Deskhand.Number
open Deskhand.Text

/-- The variables, each with the bytes of its value. -/
abbrev Environment := List (String × List UInt8)

namespace Environment

/-- The key of a setting: a prefix and the name of the setting in upper case. -/
def key (start name : String) : String := start ++ uppercase name

/-- The text of a variable; nothing if it is not set or blank. -/
def text (env : Environment) (key : String) : Except SettingsError (Option String) :=
  match env.lookup key with
  | none => .ok none
  | some bytes =>
    match Utf8.decode? bytes with
    | none => .error (.variable key "value is not valid UTF-8")
    | some value => .ok (if blank value then none else some value)

/-- The value that a variable denotes. -/
def parsed {α : Type} (env : Environment) (key : String) (read : String → Except String α) :
    Except SettingsError (Option α) := do
  match ← env.text key with
  | none => return none
  | some value =>
    match read value with
    | .ok x => return some x
    | .error reason => .error (.variable key reason)

def natural (above : Nat) (value : String) : Except String Nat :=
  (readNatural above (trim value)).mapError IntegerError.message

def integer (below above : Nat) (value : String) : Except String Int :=
  (readInteger below above (trim value)).mapError IntegerError.message

def double (value : String) : Except String Double :=
  (read? binary64 (trim value)).elim (.error "invalid float literal") .ok

/-- One of the two words for a truth value. -/
def truth (value : String) : Except String Bool :=
  match trim value with
  | "true" => .ok true
  | "false" => .ok false
  | _ => .error "provided string was not `true` or `false`"

/-- One of the customary words for a truth value, in any letter case. -/
def switch (value : String) : Except String Bool :=
  match asciiLowercase (trim value) with
  | "true" | "1" | "yes" | "on" => .ok true
  | "false" | "0" | "no" | "off" => .ok false
  | _ => .error ("expected a boolean, got " ++ quoted value)

def flag (env : Environment) (key : String) : Except SettingsError (Option Bool) :=
  env.parsed key switch

/-- The items of a text between commas, without blanks around them and without blank items. -/
def items (value : String) : List String :=
  ((splitOn ',' value.toList).map trimBoth).filterMap fun item =>
    if item.isEmpty then none else some (String.ofList item)

def list (env : Environment) (key : String) : Except SettingsError (Option (List String)) := do
  return (← env.text key).map items

end Environment

end Deskhand
