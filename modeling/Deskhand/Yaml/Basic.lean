/-
  Deskhand.Yaml.Basic

  YAML values.

  The tree of a YAML document. A scalar keeps its text and whether it was written plainly, without
  quotes: only a plain scalar can stand for a number, a truth value or nothing. Keys are values too,
  and a mapping keeps its pairs as they are written.
-/

namespace Deskhand

/-- A YAML value. -/
inductive Yaml where
  | scalar (text : String) (plain : Bool)
  | sequence (items : List Yaml)
  | mapping (pairs : List (Yaml × Yaml))

namespace Yaml

/-- What stands where nothing is written. -/
def empty : Yaml := .scalar "" true

instance : Inhabited Yaml := ⟨empty⟩

def text? : Yaml → Option String
  | .scalar text _ => some text
  | _ => none

def plain? : Yaml → Option String
  | .scalar text true => some text
  | _ => none

def isEmpty (y : Yaml) : Bool := y.plain? == some ""

/-- Whether a value stands for nothing. -/
def isNull (y : Yaml) : Bool :=
  y.plain?.any fun text => ["", "~", "null", "Null", "NULL"].contains text

end Yaml

end Deskhand
