/-
  Deskhand.Command.Argument

  Arguments.

  The typed arguments of a command.
-/

import Deskhand.Number.Style

namespace Deskhand

/-- One positional argument of a command: a text, a number, a pattern between slashes, or a token
that is none of these and is kept as it stands. -/
inductive Argument where
  | text (value : String)
  | number (value : Number.Double)
  | pattern (source flags : String)
  | token (value : String)
  deriving DecidableEq

/-- An argument as it appears in a message. -/
def Argument.display : Argument → String
  | .text value => value
  | .number value => value.text
  | .pattern source flags => "/" ++ source ++ "/" ++ flags
  | .token value => value

def Argument.asText? : Argument → Option String
  | .text value => some value
  | _ => none

def Argument.asNumber? : Argument → Option Number.Double
  | .number value => some value
  | _ => none

end Deskhand
