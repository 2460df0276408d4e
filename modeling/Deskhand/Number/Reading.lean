/-
  Deskhand.Number.Reading

  Reading numbers.

  Decimal text to binary numbers, correctly rounded, and decimal text to integers of a limited range
  with the reason where it is refused.
-/

import Deskhand.Number.Binary
import Deskhand.Number.Shortest
import Deskhand.Text.Search

namespace Deskhand.Number

open Deskhand.Text

def digitValue (c : Char) : Nat := c.toNat - '0'.toNat

/-- The natural number that a run of decimal digits denotes. -/
def ofDigits (digits : List Char) : Nat := digits.foldl (fun n c => 10 * n + digitValue c) 0

/-- The number nearest to `digits * 10 ^ exponent`. Exponents far outside the range of every format
are answered without computing the power. -/
def ofDecimal (f : Format) (negative : Bool) (digits : Nat) (exponent : Int) : Binary f :=
  let position := digitCount digits + exponent
  if digits = 0 || position < -400 then .finite negative 0 0
  else if 400 < position then .infinite negative
  else f.round negative (digits * Nat.pow 10 exponent.toNat) (Nat.pow 10 (-exponent).toNat)

/-- The exponent part of a decimal: nothing, or `e`, an optional sign and digits. -/
def readExponent? : List Char → Option Int
  | [] => some 0
  | e :: rest =>
    if e = 'e' || e = 'E' then
      let (negative, digits) :=
        match rest with
        | '-' :: digits => (true, digits)
        | '+' :: digits => (false, digits)
        | digits => (false, digits)
      if digits.isEmpty || !digits.all Char.isDigit then none
      else some (if negative then -(ofDigits digits : Int) else ofDigits digits)
    else none

/-- An unsigned decimal: digits with an optional point among or around them, at least one digit,
and an optional exponent. -/
def readDecimal? (s : List Char) : Option Decimal :=
  let whole := s.takeWhile Char.isDigit
  let rest := s.dropWhile Char.isDigit
  let (part, rest) :=
    match rest with
    | '.' :: rest => (rest.takeWhile Char.isDigit, rest.dropWhile Char.isDigit)
    | rest => ([], rest)
  if whole.isEmpty && part.isEmpty then none
  else
    (readExponent? rest).map fun exponent =>
      ⟨ofDigits (whole ++ part), exponent - part.length⟩

/-- An unsigned number: a decimal, or the words for infinity and `nan` in any case. -/
def readUnsigned? (f : Format) (negative : Bool) (s : List Char) : Option (Binary f) :=
  let word := String.ofList (asciiLower s)
  if word = "inf" || word = "infinity" then some (.infinite negative)
  else if word = "nan" then some .nan
  else (readDecimal? s).map fun d => ofDecimal f negative d.digits d.exponent

/-- A number with an optional sign; nothing may stand around it. -/
def read? (f : Format) (s : String) : Option (Binary f) :=
  match s.toList with
  | '-' :: rest => readUnsigned? f true rest
  | '+' :: rest => readUnsigned? f false rest
  | rest => readUnsigned? f false rest

/-! ## Integers of a limited range -/

/-- Why a text is not an integer of the range. -/
inductive IntegerError where
  | empty
  | invalidDigit
  | tooLarge
  | tooSmall
  deriving DecidableEq, Repr

def IntegerError.message : IntegerError → String
  | .empty => "cannot parse integer from empty string"
  | .invalidDigit => "invalid digit found in string"
  | .tooLarge => "number too large to fit in target type"
  | .tooSmall => "number too small to fit in target type"

/-- Reads digits from the left into a magnitude of at most `bound`. What goes wrong first is
reported: a character that is no digit, or a magnitude over the bound. -/
def readMagnitude (bound : Nat) (excess : IntegerError) : Nat → List Char → Except IntegerError Nat
  | n, [] => .ok n
  | n, c :: rest =>
    if !c.isDigit then .error .invalidDigit
    else if bound < 10 * n + digitValue c then .error excess
    else readMagnitude bound excess (10 * n + digitValue c) rest

/-- An integer from `-below` to `above` with an optional sign. Where `below` is zero a minus sign
is no part of a number. -/
def readInteger (below above : Nat) (s : String) : Except IntegerError Int :=
  match s.toList with
  | [] => .error .empty
  | ['+'] | ['-'] => .error .invalidDigit
  | '+' :: digits => (readMagnitude above .tooLarge 0 digits).map Int.ofNat
  | '-' :: digits =>
    if below = 0 then .error .invalidDigit
    else (readMagnitude below .tooSmall 0 digits).map fun n => -(n : Int)
  | digits => (readMagnitude above .tooLarge 0 digits).map Int.ofNat

def readNatural (above : Nat) (s : String) : Except IntegerError Nat :=
  (readInteger 0 above s).map Int.toNat

def maxU64 : Nat := 0xFFFFFFFFFFFFFFFF

def maxU32 : Nat := 0xFFFFFFFF

def maxI32 : Nat := 0x7FFFFFFF

def maxI64 : Nat := 0x7FFFFFFFFFFFFFFF

end Deskhand.Number
