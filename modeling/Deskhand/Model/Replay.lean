/-
  Deskhand.Model.Replay

  A recorded answer.

  In the place of a language model: one answer to every prompt.
-/

namespace Deskhand.Model

/-- A recorded answer. -/
structure Replay where
  answer : String
  deriving DecidableEq, Repr

def Replay.generate (r : Replay) (_prompt : String) : String := r.answer

def Replay.describe (r : Replay) : String :=
  "static (" ++ toString r.answer.utf8ByteSize ++ " chars)"

end Deskhand.Model
