/-
  Deskhand.Text.Quoted

  Quoted text.

  A text between double quotes as messages show it to a person: quotes and backslashes escaped, the
  usual line and tab escapes, and every character that cannot be shown as it is written by its code
  point in hexadecimal.
-/

import Deskhand.Text.Classes

namespace Deskhand.Text

def hexDigits (n : Nat) : List Char := Nat.toDigits 16 n

/-- A character inside double quotes. -/
def quoteChar (c : Char) : List Char :=
  if c = '\x00' then ['\\', '0']
  else if c = '\t' then ['\\', 't']
  else if c = '\n' then ['\\', 'n']
  else if c = '\r' then ['\\', 'r']
  else if c = '"' then ['\\', '"']
  else if c = '\\' then ['\\', '\\']
  else if c.toNat < 0x20 || isHidden c then ['\\', 'u', '\x7b'] ++ hexDigits c.toNat ++ ['\x7d']
  else [c]

/-- A string between double quotes, for messages. -/
def quoted (s : String) : String :=
  "\"" ++ String.ofList (s.toList.flatMap quoteChar) ++ "\""

end Deskhand.Text
