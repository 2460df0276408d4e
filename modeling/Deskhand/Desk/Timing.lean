/-
  Deskhand.Desk.Timing

  Waiting times.

  How long a desktop needs to settle after each kind of action, in milliseconds.
-/

namespace Deskhand.Desk

/-- The waiting times, in milliseconds. -/
structure Timing where
  keyDelay : Nat
  typeDelay : Nat
  moveSettle : Nat
  clickSettle : Nat
  scrollSettle : Nat
  startMenuDelay : Nat
  launchWait : Nat
  urlWait : Nat
  focusWait : Nat
  deriving DecidableEq, Repr

namespace Timing

/-- Times that suit an ordinary desktop. -/
def standard : Timing := ⟨50, 50, 50, 100, 50, 200, 2000, 3000, 500⟩

def immediate : Timing := ⟨0, 0, 0, 0, 0, 0, 0, 0, 0⟩

end Timing

end Deskhand.Desk
