/-
  Deskhand.Csv

  Tables as text.

  Tables with a delimiter between the fields and a line feed after each record. A field is put
  between quotes if it holds the delimiter, a quote or a line break, or if it is empty and the only
  one of its record; a quote inside it is doubled. A record without fields is written like one with
  a single empty field.
-/

namespace Deskhand.Csv

/-- Whether a character cannot stand in a field without quotes. -/
def isSpecial (delimiter c : Char) : Bool := c == delimiter || c == '"' || c == '\n' || c == '\r'

def quotedField (field : List Char) : List Char :=
  '"' :: field.flatMap (fun c => if c = '"' then ['"', '"'] else [c]) ++ ['"']

/-- A field of a record that has others. -/
def writeField (delimiter : Char) (field : List Char) : List Char :=
  if field.any (isSpecial delimiter) then quotedField field else field

/-- A record without its line feed. -/
def writeRecord (delimiter : Char) : List String → List Char
  | [] | [""] => ['"', '"']
  | fields => [delimiter].intercalate (fields.map fun field => writeField delimiter field.toList)

def write (delimiter : Char) (rows : List (List String)) : List Char :=
  rows.flatMap fun row => writeRecord delimiter row ++ ['\n']

end Deskhand.Csv
