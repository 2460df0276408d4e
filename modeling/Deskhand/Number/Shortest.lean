/-
  Deskhand.Number.Shortest

  Shortest decimals.

  The decimal that stands for a binary number: the fewest digits that read back as that number, and
  among those the nearest to it. The decimals that read back form an interval around the number. For
  one digit, two digits and so on, the two neighbours of the number on that decimal grid are tested;
  if any point of a grid lies in the interval then so does one of these two. Where the number lies
  half-way between two such neighbours, the caller says which of them is taken.
-/

import Deskhand.Number.Binary

namespace Deskhand.Number

/-- The decimal `digits * 10 ^ exponent`. -/
structure Decimal where
  digits : Nat
  exponent : Int
  deriving DecidableEq, Repr

/-- The number of decimal digits of a natural number; zero has one. -/
def digitCount (n : Nat) : Nat := (Nat.toDigits 10 n).length

/-- The least `k` from `start` on with `den ≤ num * 10 ^ k`, looked for in at most `fuel` steps. -/
def leastScale (num den : Nat) : (fuel start : Nat) → Nat
  | 0, start => start
  | fuel + 1, start =>
    if den ≤ num * Nat.pow 10 start then start else leastScale num den fuel (start + 1)

/-- The exponent `e` with `10 ^ (e - 1) ≤ num / den < 10 ^ e`, for a quotient above `10 ^ -400`. -/
def decimalPosition (num den : Nat) : Int :=
  if den ≤ num then digitCount (num / den) else 1 - (leastScale num den 400 1 : Int)

/-- The decimal without trailing zeros in its digits, at most `fuel` of them. -/
def Decimal.strip : Nat → Decimal → Decimal
  | 0, d => d
  | fuel + 1, d =>
    if d.digits ≠ 0 ∧ d.digits % 10 = 0 then
      Decimal.strip fuel ⟨d.digits / 10, d.exponent + 1⟩
    else d

/-- The numbers that read back as one binary number: those from `low / scale` to `high / scale`,
the ends included where `closed` holds. The number itself is `value / scale`. -/
structure ReadBack where
  low : Nat
  value : Nat
  high : Nat
  scale : Nat
  closed : Bool

/-- The interval of a finite number other than zero. The step below a power of two is half as
wide, save at the bottom of the range; an end reads back where the significand is even. -/
def readBack (f : Format) (significand shift : Nat) : ReadBack :=
  let step := Nat.pow 2 shift
  let narrow := significand = Nat.pow 2 (f.precision - 1) ∧ 0 < shift
  { low := 4 * significand * step - (if narrow then step else 2 * step)
    value := 4 * significand * step
    high := 4 * significand * step + 2 * step
    scale := 4 * Nat.pow 2 f.fraction
    closed := significand % 2 = 0 }

/-- Whether `count * 10 ^ exponent` lies in the interval. -/
def ReadBack.holds (r : ReadBack) (count : Nat) (exponent : Int) : Bool :=
  let point := count * Nat.pow 10 exponent.toNat * r.scale
  let widen := Nat.pow 10 (-exponent).toNat
  if r.closed then r.low * widen ≤ point && point ≤ r.high * widen
  else r.low * widen < point && point < r.high * widen

/-- The neighbour of the number on the grid of `10 ^ exponent` that reads back, the nearer one if
both do. -/
def ReadBack.gridPoint? (r : ReadBack) (halfWay : HalfWay) (exponent : Int) : Option Nat :=
  let num := r.value * Nat.pow 10 (-exponent).toNat
  let den := r.scale * Nat.pow 10 exponent.toNat
  -- One of the two powers is one, so that both stay whole numbers.
  let below := num / den
  match r.holds below exponent, r.holds (below + 1) exponent with
  | true, true => some (halfWay.nearer below (num % den) den)
  | true, false => some below
  | false, true => some (below + 1)
  | false, false => none

/-- The first grid, from `used` digits on, with a point that reads back. -/
def ReadBack.search (r : ReadBack) (halfWay : HalfWay) (position : Int) :
    (fuel used : Nat) → Decimal
  | 0, used =>
    -- Not reached: seventeen digits tell any two numbers of a format apart.
    let num := r.value * Nat.pow 10 (used - position).toNat
    let den := r.scale * Nat.pow 10 (position - used).toNat
    ⟨num / den, position - used⟩
  | fuel + 1, used =>
    match r.gridPoint? halfWay (position - used) with
    | some count => ⟨count, position - used⟩
    | none => r.search halfWay position fuel (used + 1)

/-- The shortest decimal that reads back as the magnitude of a finite number. -/
def shortest (f : Format) (halfWay : HalfWay) (significand shift : Nat) : Decimal :=
  if significand = 0 then ⟨0, 0⟩
  else
    let r := readBack f significand shift
    (r.search halfWay (decimalPosition r.value r.scale) 17 1).strip 400

end Deskhand.Number
