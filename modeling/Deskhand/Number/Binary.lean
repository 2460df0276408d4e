/-
  Deskhand.Number.Binary

  Binary floating-point numbers.

  The numbers of a binary interchange format, held exactly. A finite number is a whole number of the
  format's smallest steps: `units / 2 ^ fraction`. Arithmetic is done on those whole numbers, and
  one function, `Format.round`, takes an exact quotient to the nearest number of the format, an
  exact half going to the even neighbour. Nothing here depends on the machine's own floating point.
-/

namespace Deskhand.Number

/-- A binary format: the bits of a significand, the number of halvings from one down to the
smallest step, and the largest shift of a finite number. -/
structure Format where
  precision : Nat
  fraction : Nat
  maxShift : Nat
  deriving DecidableEq, Repr

def binary64 : Format := ⟨53, 1074, 2045⟩

def binary32 : Format := ⟨24, 149, 253⟩

/-- A number of the format `f`. The finite number with significand `m` and shift `s` has the
magnitude `m * 2 ^ s` in units of the smallest step; zero has a sign. -/
inductive Binary (f : Format) where
  | nan
  | infinite (negative : Bool)
  | finite (negative : Bool) (significand : Nat) (shift : Nat)
  deriving DecidableEq, Repr

instance (f : Format) : Inhabited (Binary f) := ⟨.finite false 0 0⟩

/-- A number with 53 significant bits. -/
abbrev Double := Binary binary64

/-- A number with 24 significant bits. -/
abbrev Single := Binary binary32

/-- Which of two whole numbers is taken that are as near to a quotient: the upper one or the even
one. -/
inductive HalfWay where
  | up
  | toEven
  deriving DecidableEq, Repr

/-- The nearer one of `below` and its successor to the quotient that lies `rest / den` above
`below`. -/
def HalfWay.nearer (h : HalfWay) (below rest den : Nat) : Nat :=
  if 2 * rest < den ∨ (2 * rest = den ∧ h = .toEven ∧ below % 2 = 0) then below else below + 1

/-- The nearest whole number to `num / den`; an exact half goes to the even neighbour. -/
def roundHalfEven (num den : Nat) : Nat := HalfWay.toEven.nearer (num / den) (num % den) den

/-- The number of the format nearest to `num / den`. A quotient too large for the format is
infinite. -/
def Format.round (f : Format) (negative : Bool) (num den : Nat) : Binary f :=
  let scaled := num * Nat.pow 2 f.fraction
  let whole := scaled / den
  let shift := if whole < Nat.pow 2 f.precision then 0 else whole.log2 - (f.precision - 1)
  let significand := roundHalfEven scaled (den * Nat.pow 2 shift)
  let (significand, shift) :=
    if significand = Nat.pow 2 f.precision then (Nat.pow 2 (f.precision - 1), shift + 1)
    else (significand, shift)
  if shift > f.maxShift then .infinite negative else .finite negative significand shift

namespace Binary

variable {f : Format}

def ofNat (f : Format) (n : Nat) : Binary f := f.round false n 1

def ofInt (f : Format) (n : Int) : Binary f := f.round (n < 0) n.natAbs 1

/-- The magnitude of a finite number in units of the smallest step. -/
def units : Binary f → Nat
  | .finite _ significand shift => significand * Nat.pow 2 shift
  | _ => 0

def isFinite : Binary f → Bool
  | .finite .. => true
  | _ => false

def negate : Binary f → Binary f
  | .nan => .nan
  | .infinite negative => .infinite (!negative)
  | .finite negative significand shift => .finite (!negative) significand shift

def abs : Binary f → Binary f
  | .nan => .nan
  | .infinite _ => .infinite false
  | .finite _ significand shift => .finite false significand shift

/-- Whether the number is less than zero; a negative zero is not. -/
def isNegative : Binary f → Bool
  | .nan => false
  | .infinite negative => negative
  | .finite negative significand _ => negative && significand != 0

/-- Whether the number is zero or more; `nan` is not. -/
def isNonnegative : Binary f → Bool
  | .nan => false
  | x => !x.isNegative

/-- Whether the magnitude of the number is greater than `bound`. -/
def exceeds (x : Binary f) (bound : Nat) : Bool :=
  match x with
  | .nan => false
  | .infinite _ => true
  | .finite .. => bound * Nat.pow 2 f.fraction < x.units

/-- The nearest whole number to the magnitude of a finite number; a half goes up. -/
def roundMagnitude (x : Binary f) : Nat :=
  (2 * x.units + Nat.pow 2 f.fraction) / (2 * Nat.pow 2 f.fraction)

/-- The nearest integer to a finite number; a half goes away from zero. -/
def roundToInt (x : Binary f) : Int :=
  if x.isNegative then -(x.roundMagnitude : Int) else x.roundMagnitude

/-- The product of two finite numbers, correctly rounded. -/
def mul (x y : Binary f) : Binary f :=
  match x, y with
  | .finite n _ _, .finite m _ _ =>
    f.round (n != m) (x.units * y.units) (Nat.pow 2 f.fraction * Nat.pow 2 f.fraction)
  | .infinite n, .finite m k _ => if k = 0 then .nan else .infinite (n != m)
  | .finite n k _, .infinite m => if k = 0 then .nan else .infinite (n != m)
  | .infinite n, .infinite m => .infinite (n != m)
  | _, _ => .nan

/-- The quotient of a finite number by a finite number other than zero, correctly rounded. -/
def div (x y : Binary f) : Binary f :=
  match x, y with
  | .finite n _ _, .finite m _ _ =>
    if y.units = 0 then if x.units = 0 then .nan else .infinite (n != m)
    else f.round (n != m) x.units y.units
  | .infinite n, .finite m _ _ => .infinite (n != m)
  | .finite n _ _, .infinite m => .finite (n != m) 0 0
  | _, _ => .nan

def convert (g : Format) : Binary f → Binary g
  | .nan => .nan
  | .infinite negative => .infinite negative
  | x@(.finite negative _ _) => g.round negative x.units (Nat.pow 2 f.fraction)

/-- Whether the number lies between zero and `bound`, both included. -/
def isWithin (bound : Nat) (x : Binary f) : Bool := x.isNonnegative && !x.exceeds bound

end Binary

/-! ## Small facts -/

/-- Rounding to the nearest is exact where the quotient is whole. -/
theorem roundHalfEven_mul_right (n : Nat) {den : Nat} (h : 0 < den) :
    roundHalfEven (n * den) den = n := by
  simp [roundHalfEven, HalfWay.nearer, Nat.mul_div_cancel n h, h]

theorem Binary.ofNat_zero (f : Format) : Binary.ofNat f 0 = .finite false 0 0 := by
  have hpower : 0 ≠ 2 ^ f.precision := Nat.ne_of_lt (Nat.two_pow_pos f.precision)
  have hround : roundHalfEven 0 1 = 0 := roundHalfEven_mul_right 0 Nat.one_pos
  simp [ofNat, Format.round, hpower, hround]

end Deskhand.Number
