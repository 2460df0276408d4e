/-
  Deskhand.Duration

  Durations.

  Lengths of time in microseconds, and the two ways to write one: exactly, in the largest unit that
  leaves a whole part, and shortened for people who watch the agent at work.
-/

import Deskhand.Number.Binary

namespace Deskhand

structure Duration where
  micros : Nat
  deriving DecidableEq, Repr

namespace Duration

def ofSeconds (n : Nat) : Duration := ⟨1000000 * n⟩

def ofMillis (n : Nat) : Duration := ⟨1000 * n⟩

def toMillis (d : Duration) : Nat := d.micros / 1000

/-- `part / 10 ^ places` as digits after the point, without trailing zeros; nothing for zero. -/
def fractionText (part places : Nat) : String :=
  if part = 0 then ""
  else
    let digits := (Nat.toDigits 10 (Nat.pow 10 places + part)).drop 1
    "." ++ String.ofList (digits.reverse.dropWhile (· == '0')).reverse

/-- The exact text of a duration. -/
def describe (d : Duration) : String :=
  if 1000000 ≤ d.micros then
    toString (d.micros / 1000000) ++ fractionText (d.micros % 1000000) 6 ++ "s"
  else if 1000 ≤ d.micros then
    toString (d.micros / 1000) ++ fractionText (d.micros % 1000) 3 ++ "ms"
  else if 0 < d.micros then toString d.micros ++ "µs"
  else "0ns"

/-- Seconds with two places. The quotient is first taken to the nearest binary number, which is
then rounded to two places, an exact half to the even side. -/
def secondsText (d : Duration) : String :=
  let seconds := Number.binary64.round false d.micros 1000000
  let hundredths := Number.roundHalfEven (seconds.units * 100) (Nat.pow 2 Number.binary64.fraction)
  let digits := (Nat.toDigits 10 (100 + hundredths % 100)).drop 1
  toString (hundredths / 100) ++ "." ++ String.ofList digits ++ "s"

/-- The shortened text of a duration. -/
def summary (d : Duration) : String :=
  if d.micros < 1000 then toString d.micros ++ "μs"
  else if d.micros < 1000000 then toString (d.micros / 1000) ++ "ms"
  else if d.micros < 60000000 then d.secondsText
  else
    let seconds := d.micros / 1000000
    toString (seconds / 60) ++ "m" ++ toString (seconds % 60) ++ "s"

end Duration

end Deskhand
