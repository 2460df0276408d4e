/-
  Deskhand.Number.Style

  Styles of number text.

  How a binary number is spelled: which magnitudes are written positionally, whether a whole number
  keeps a point, how an exponent is marked, and which of two equally near decimals is taken. The
  digits are always the shortest ones that read back.
-/

import Deskhand.Number.Shortest

namespace Deskhand.Number

/-- One way to spell numbers. `positional` is asked with the exponent of the leading digit. -/
structure Style where
  positional : Int → Bool
  keepsPoint : Bool
  signsExponent : Bool
  halfWay : HalfWay

/-- Always positional, with no point on whole numbers. -/
def Style.plain : Style := ⟨fun _ => true, false, false, .up⟩

/-- JSON numbers with 53 significant bits. -/
def Style.json64 : Style := ⟨fun e => -5 ≤ e && e ≤ 15, true, true, .toEven⟩

/-- JSON numbers with 24 significant bits. -/
def Style.json32 : Style := ⟨fun e => -6 ≤ e && e ≤ 12, true, true, .toEven⟩

/-- Numbers in descriptions of settings. -/
def Style.described : Style := ⟨fun e => -4 ≤ e && e < 16, true, false, .up⟩

def zeros (count : Nat) : String := String.ofList (List.replicate count '0')

/-- The decimal spelled with a point and no exponent. -/
def positionalText (style : Style) (d : Decimal) : String :=
  let digits := Nat.repr d.digits
  let point : Int := digits.length + d.exponent
  if 0 ≤ d.exponent then
    digits ++ zeros d.exponent.toNat ++ (if style.keepsPoint then ".0" else "")
  else if 0 < point then
    String.ofList (digits.toList.take point.toNat) ++ "." ++
      String.ofList (digits.toList.drop point.toNat)
  else "0." ++ zeros (-point).toNat ++ digits

/-- The decimal spelled with one digit before the point and an exponent. -/
def scientificText (style : Style) (d : Decimal) : String :=
  let digits := Nat.repr d.digits
  let exponent : Int := digits.length + d.exponent - 1
  let mantissa :=
    match digits.toList with
    | first :: rest@(_ :: _) => String.ofList (first :: '.' :: rest)
    | _ => digits
  mantissa ++ "e" ++ (if style.signsExponent && 0 ≤ exponent then "+" else "") ++ toString exponent

/-- The text of a decimal in a style; zero is positional in every style. -/
def Decimal.spell (style : Style) (d : Decimal) : String :=
  if d.digits = 0 || style.positional (digitCount d.digits + d.exponent - 1) then
    positionalText style d
  else scientificText style d

/-- The text of a binary number in a style. -/
def Binary.spell {f : Format} (style : Style) : Binary f → String
  | .nan => "NaN"
  | .infinite negative => if negative then "-inf" else "inf"
  | .finite negative significand shift =>
    (if negative then "-" else "") ++ (shortest f style.halfWay significand shift).spell style

def Binary.text {f : Format} (x : Binary f) : String := x.spell .plain

end Deskhand.Number
