/-
  Deskhand.Json.Writer

  Writing JSON.

  Two forms of a document: the compact one, without any space between tokens, and the indented one,
  with every item and member on a line of its own. A string escapes the quote, the backslash and the
  characters below U+0020, and nothing else.
-/

import Deskhand.Json.Basic
import Deskhand.Number.Style

namespace Deskhand.Json

/-- Two hexadecimal digits of a number below 256. -/
def hexPair (n : Nat) : List Char := [Nat.digitChar (n / 16), Nat.digitChar (n % 16)]

/-- A character inside a string literal. -/
def escapeChar (c : Char) : List Char :=
  if c = '"' then ['\\', '"']
  else if c = '\\' then ['\\', '\\']
  else if c = '\x08' then ['\\', 'b']
  else if c = '\t' then ['\\', 't']
  else if c = '\n' then ['\\', 'n']
  else if c = '\x0c' then ['\\', 'f']
  else if c = '\r' then ['\\', 'r']
  else if c.toNat < 0x20 then ['\\', 'u', '0', '0'] ++ hexPair c.toNat
  else [c]

def literal (s : List Char) : List Char := '"' :: s.flatMap escapeChar ++ ['"']

def quote (s : String) : String := String.ofList (literal s.toList)

def Number.text : Json.Number → String
  | .integer value => toString value
  | .float value => value.spell .json64

mutual

/-- The compact form of a value. -/
def compactChars : Json → List Char
  | .null => ['n', 'u', 'l', 'l']
  | .bool true => ['t', 'r', 'u', 'e']
  | .bool false => ['f', 'a', 'l', 's', 'e']
  | .number value => value.text.toList
  | .string value => literal value.toList
  | .array items => '[' :: compactItems items ++ [']']
  | .object members => '\x7b' :: compactMembers members ++ ['\x7d']

def compactItems : List Json → List Char
  | [] => []
  | [item] => compactChars item
  | item :: rest => compactChars item ++ ',' :: compactItems rest

def compactMembers : List (String × Json) → List Char
  | [] => []
  | [(key, value)] => literal key.toList ++ ':' :: compactChars value
  | (key, value) :: rest =>
    literal key.toList ++ ':' :: compactChars value ++ ',' :: compactMembers rest

end

def compact (value : Json) : String := String.ofList (compactChars value)

/-- A line break and the indentation of a level. -/
def breakLine (level : Nat) : List Char := '\n' :: List.replicate (2 * level) ' '

mutual

/-- The indented form of a value that stands on a line of the given level. -/
def indentedChars (level : Nat) : Json → List Char
  | .array (item :: rest) =>
    '[' :: breakLine (level + 1) ++ indentedChars (level + 1) item ++
      indentedItems (level + 1) rest ++ breakLine level ++ [']']
  | .object ((key, value) :: rest) =>
    '\x7b' :: breakLine (level + 1) ++ literal key.toList ++ ':' :: ' ' ::
      indentedChars (level + 1) value ++ indentedMembers (level + 1) rest ++ breakLine level ++
      ['\x7d']
  | value => compactChars value

/-- The items after the first. -/
def indentedItems (level : Nat) : List Json → List Char
  | [] => []
  | item :: rest =>
    ',' :: breakLine level ++ indentedChars level item ++ indentedItems level rest

/-- The members after the first. -/
def indentedMembers (level : Nat) : List (String × Json) → List Char
  | [] => []
  | (key, value) :: rest =>
    ',' :: breakLine level ++ literal key.toList ++ ':' :: ' ' :: indentedChars level value ++
      indentedMembers level rest

end

def indented (value : Json) : String := String.ofList (indentedChars 0 value)

end Deskhand.Json
