/-
  Deskhand.Proofs.Json.Objectless

  Texts without objects.

  The grammar of the format alone, for the values in which no object stands: words, numbers,
  strings, and arrays of such values, nested as deep as one likes, with spaces around the items. The
  grammar says what a text looks like and not what it is read as, so it is wider than the reader,
  which has bounds for the depth of a value and the size of a number and wants the halves of a
  surrogate pair together.
-/

import Deskhand.Proofs.Json.Items
import Deskhand.Proofs.Text.Literals

namespace Deskhand.Json

open Deskhand.Text

/-! ## Numbers -/

/-- One digit or more. -/
structure Digits (s : List Char) : Prop where
  ne_nil : s ≠ []
  digit : ∀ c ∈ s, c.isDigit = true

/-- What may follow the whole part of a number. -/
inductive FractionText : List Char → Prop where
  | none : FractionText []
  | point {digits : List Char} (h : Digits digits) : FractionText ('.' :: digits)

/-- What may stand at the end of a number. -/
inductive ExponentText : List Char → Prop where
  | none : ExponentText []
  | power {letter : Char} {sign digits : List Char} (hletter : letter = 'e' ∨ letter = 'E')
      (hsign : sign = [] ∨ sign = ['+'] ∨ sign = ['-']) (h : Digits digits) :
      ExponentText (letter :: (sign ++ digits))

/-- A number: perhaps a minus sign, digits without a needless zero in front, and perhaps a fraction
and an exponent. -/
inductive NumberText : List Char → Prop where
  | mk {sign whole fraction exponent : List Char} (hsign : sign = [] ∨ sign = ['-'])
      (hwhole : Digits whole) (noZero : whole.head? = some '0' → whole = ['0'])
      (hfraction : FractionText fraction) (hexponent : ExponentText exponent) :
      NumberText (sign ++ (whole ++ (fraction ++ exponent)))

/-! ## Strings -/

/-- What may stand between the quotes of a string. -/
inductive StringText : List Char → Prop where
  | nil : StringText []
  | plain {c : Char} {behind : List Char} (notQuote : c ≠ '"') (notBackslash : c ≠ '\\')
      (visible : 0x20 ≤ c.toNat) (h : StringText behind) : StringText (c :: behind)
  | short {c : Char} {behind : List Char}
      (letter : c ∈ ['"', '\\', '/', 'b', 'f', 'n', 'r', 't']) (h : StringText behind) :
      StringText ('\\' :: c :: behind)
  | unit {digits behind : List Char} (length : digits.length = 4)
      (digit : ∀ d ∈ digits, (hexDigit? d).isSome = true) (h : StringText behind) :
      StringText ('\\' :: 'u' :: (digits ++ behind))

/-! ## Values -/

/-- What a text is: one value, or the items of an array with the commas between them. -/
inductive Phrase where
  | value
  | items
  deriving DecidableEq, Repr

/-- The texts of values and of items in which no object stands. -/
inductive Objectless : Phrase → List Char → Prop where
  | word {text : List Char}
      (h : text ∈ [['n', 'u', 'l', 'l'], ['t', 'r', 'u', 'e'], ['f', 'a', 'l', 's', 'e']]) :
      Objectless .value text
  | number {text : List Char} (h : NumberText text) : Objectless .value text
  | string {body : List Char} (h : StringText body) : Objectless .value ('"' :: (body ++ ['"']))
  | emptyArray {spaces : List Char} (blank : Blank spaces) :
      Objectless .value ('[' :: (spaces ++ [']']))
  | array {items : List Char} (h : Objectless .items items) :
      Objectless .value ('[' :: (items ++ [']']))
  | last {before text after : List Char} (hbefore : Blank before) (h : Objectless .value text)
      (hafter : Blank after) : Objectless .items (before ++ (text ++ after))
  | next {before text after others : List Char} (hbefore : Blank before)
      (h : Objectless .value text) (hafter : Blank after) (hothers : Objectless .items others) :
      Objectless .items (before ++ (text ++ (after ++ ',' :: others)))

/-! ## Quotes -/

theorem Digits.quote_notMem {s : List Char} (h : Digits s) : '"' ∉ s := fun hmem =>
  absurd (h.digit '"' hmem) (by decide)

theorem FractionText.quote_notMem {s : List Char} (h : FractionText s) : '"' ∉ s := by
  cases h with
  | none => exact List.not_mem_nil
  | point hdigits => simpa using hdigits.quote_notMem

theorem ExponentText.quote_notMem {s : List Char} (h : ExponentText s) : '"' ∉ s := by
  cases h with
  | none => exact List.not_mem_nil
  | @power letter sign digits hletter hsign hdigits =>
    have hstart : '"' ≠ letter := by rcases hletter with rfl | rfl <;> decide
    have hmiddle : '"' ∉ sign := by rcases hsign with rfl | rfl | rfl <;> decide
    simp [hstart, hmiddle, hdigits.quote_notMem]

theorem NumberText.quote_notMem {s : List Char} (h : NumberText s) : '"' ∉ s := by
  cases h with
  | @mk sign whole fraction exponent hsign hwhole _ hfraction hexponent =>
    have hstart : '"' ∉ sign := by rcases hsign with rfl | rfl <;> decide
    simp [hstart, hwhole.quote_notMem, hfraction.quote_notMem, hexponent.quote_notMem]

theorem quote_notMem_word {text : List Char}
    (h : text ∈ [['n', 'u', 'l', 'l'], ['t', 'r', 'u', 'e'], ['f', 'a', 'l', 's', 'e']]) :
    '"' ∉ text := by
  have hall : ∀ word ∈ [['n', 'u', 'l', 'l'], ['t', 'r', 'u', 'e'], ['f', 'a', 'l', 's', 'e']],
      '"' ∉ word := by decide
  exact hall text h

/-- The quotes in a string are all taken by backslashes. -/
theorem StringText.enclosed {body : List Char} (h : StringText body) :
    Enclosed (fun _ => True) body := by
  induction h with
  | nil => exact .nil
  | plain notQuote notBackslash _ _ ih => exact .plain notQuote notBackslash ih
  | short _ _ ih => exact .escape trivial ih
  | @unit digits behind _ digit _ ih =>
    -- The four digits of a code unit are no quotes and no backslashes.
    have hdigits : ∀ d ∈ digits, d ≠ '"' ∧ d ≠ '\\' := fun d hd => by
      constructor <;> (rintro rfl; exact absurd (digit _ hd) (by decide))
    exact .escape trivial (ih.append_plain hdigits)

end Deskhand.Json
