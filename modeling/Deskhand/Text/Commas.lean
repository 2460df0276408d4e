/-
  Deskhand.Text.Commas

  Trailing commas.

  Language models like to end a list with a comma. The repair drops every comma that is followed,
  blanks aside, by a closing bracket or brace, together with those blanks. It looks at the bare text
  and does not know about strings.
-/

import Deskhand.Text.Blank
import Deskhand.Text.Search

namespace Deskhand.Text

def isCloser (c : Char) : Bool := c == ']' || c == '\x7d'

/-- A comma, blanks and a closer become the closer. -/
def trailingComma : Rule
  | ',' :: rest =>
    match trimLeft rest with
    | closer :: after =>
      if isCloser closer then some ([closer], 1 + (rest.length - after.length)) else none
    | [] => none
  | _ => none

def dropTrailingCommas (s : List Char) : List Char := substitute trailingComma s

end Deskhand.Text
