/-
  Deskhand.Proofs.Json.Numerals

  What is read as a number.

  From a number that has been read one gets back the text that it was written with: digits, signs, a
  point and the letter of an exponent. Read again in front of anything that may follow a value, this
  text gives the same number, rounded or not. This is shown reader by reader, from the exponent
  outwards. Each of them takes some characters from the front of its text and hands on the rest,
  which it has not looked at beyond the first character.
-/

import Deskhand.Proofs.Json.Integers
import Deskhand.Proofs.Text.Substitution

namespace Deskhand.Json

open Deskhand.Number

/-- The characters that a number is written with. -/
def isNumberChar (c : Char) : Bool :=
  c.isDigit || c == '-' || c == '+' || c == '.' || c == 'e' || c == 'E'

/-- A reader takes a text for a number, in front of anything that may follow a value. -/
structure Takes (read : List Char → Except Fault (Json.Number × List Char)) (text : List Char)
    (n : Json.Number) : Prop where
  chars : ∀ c ∈ text, isNumberChar c = true
  reads : ∀ rest, EndsValue rest → read (text ++ rest) = .ok (n, rest)

namespace Takes

variable {read next : List Char → Except Fault (Json.Number × List Char)} {text : List Char}
  {n : Json.Number}

theorem nil (h : ∀ rest, EndsValue rest → read rest = .ok (n, rest)) : Takes read [] n where
  chars := by
    intro c hc
    cases hc
  reads := h

theorem cons {c : Char} (hc : isNumberChar c = true) (h : Takes next text n)
    (hstep : ∀ more, read (c :: more) = next more) : Takes read (c :: text) n where
  chars := by
    intro d hd
    rcases List.mem_cons.1 hd with rfl | htext
    · exact hc
    · exact h.chars d htext
  reads := by
    intro rest hrest
    rw [List.cons_append, hstep]
    exact h.reads rest hrest

/-- Digits are taken, and another reader goes on at the first character that is no digit. -/
theorem append {digits : List Char} (hdigits : ∀ c ∈ digits, c.isDigit = true)
    (htext : ∀ c ∈ text.head?, c.isDigit = false) (h : Takes next text n)
    (hstep : ∀ more, (∀ c ∈ more.head?, c.isDigit = false) → read (digits ++ more) = next more) :
    Takes read (digits ++ text) n where
  chars := by
    intro c hc
    rcases List.mem_append.1 hc with hdigit | hmem
    · simp [isNumberChar, hdigits c hdigit]
    · exact h.chars c hmem
  reads := by
    intro rest hrest
    have hhead : ∀ c ∈ (text ++ rest).head?, c.isDigit = false := by
      -- With no text between them the digits end where the value does.
      cases text with
      | nil => exact hrest.isDigit_eq_false
      | cons c text => exact htext
    rw [List.append_assoc, hstep (text ++ rest) hhead]
    exact h.reads rest hrest

end Takes

/-! ## Digits -/

theorem exists_digits_append (s : List Char) :
    ∃ digits rest, s = digits ++ rest ∧ (∀ c ∈ digits, c.isDigit = true) ∧
      ∀ c ∈ rest.head?, c.isDigit = false :=
  Text.exists_append_of_class Char.isDigit s

theorem head?_isDigit_of_append {text rest : List Char}
    (h : ∀ c ∈ (text ++ rest).head?, c.isDigit = false) : ∀ c ∈ text.head?, c.isDigit = false := by
  cases text with
  | nil =>
    intro c hc
    cases hc
  | cons c text => exact h

theorem EndsValue.isNumberChar_eq_false {rest : List Char} (h : EndsValue rest) :
    ∀ c ∈ rest.head?, isNumberChar c = false := by
  intro c hc
  rcases h c hc with hspace | rfl | rfl | rfl
  · simp only [isSpace, Bool.or_eq_true, beq_iff_eq] at hspace
    rcases hspace with ((rfl | rfl) | rfl) | rfl <;> rfl
  · rfl
  · rfl
  · rfl

/-! ## The readers -/

section Readers

variable {negative down : Bool} {significand : Nat} {exponent : Int} {s rest : List Char}
  {n : Json.Number} {read : List Char → Except Fault (Json.Number × List Char)}

theorem takes_of_makeFloat (h : makeFloat negative significand exponent s = .ok (n, rest))
    (hread : ∀ more, EndsValue more → read more = makeFloat negative significand exponent more) :
    s = rest ∧ Takes read [] n := by
  unfold makeFloat at h
  split at h
  · next value hscale =>
    obtain ⟨rfl, rfl⟩ := Prod.mk.inj (Except.ok.inj h)
    refine ⟨rfl, .nil fun more hmore => ?_⟩
    rw [hread more hmore, makeFloat, hscale]
  · cases h

theorem takes_of_readExponentDigits {start : Int} {value : Nat}
    (h : readExponentDigits negative significand start down value s = .ok (n, rest)) :
    ∃ text, s = text ++ rest ∧
      Takes (readExponentDigits negative significand start down value) text n := by
  -- At the end of the digits the number is scaled.
  have hend : ∀ value more, EndsValue more →
      readExponentDigits negative significand start down value more =
        makeFloat negative significand (if down then start - value else start + value) more := by
    intro value more hmore
    -- What ends a value is no digit.
    cases more with
    | nil => rfl
    | cons c more =>
      have hc : c.isDigit = false := hmore.isDigit_eq_false c rfl
      simp only [readExponentDigits, hc, Bool.false_eq_true, if_false]
  induction s generalizing value with
  | nil =>
    obtain ⟨hrest, htakes⟩ := takes_of_makeFloat h (hend value)
    exact ⟨[], hrest, htakes⟩
  | cons c s ih =>
    rw [readExponentDigits] at h
    split at h
    · next hc =>
      split at h
      · next hlarge =>
        split at h
        · cases h
        · next hsmall =>
          -- The exponent is out of all range, and the digits behind are passed over.
          obtain ⟨rfl, rfl⟩ := Prod.mk.inj (Except.ok.inj h)
          obtain ⟨digits, more, rfl, hdigits, hmore⟩ := exists_digits_append s
          refine ⟨c :: digits, ?_, ?_, ?_⟩
          · rw [(span_digits hdigits hmore).2]
            rfl
          · intro d hd
            rcases List.mem_cons.1 hd with rfl | hmem
            · simp [isNumberChar, hc]
            · simp [isNumberChar, hdigits d hmem]
          · intro rest hrest
            rw [List.cons_append, readExponentDigits, if_pos hc, if_pos hlarge, if_neg hsmall,
              (span_digits hdigits hrest.isDigit_eq_false).2]
      · next hlarge =>
        obtain ⟨text, rfl, htakes⟩ := ih h
        refine ⟨c :: text, rfl, .cons (by simp [isNumberChar, hc]) htakes fun more => ?_⟩
        rw [readExponentDigits, if_pos hc, if_neg hlarge]
    -- The first character is no digit, and the exponent ends in front of it.
    · obtain ⟨hrest, htakes⟩ := takes_of_makeFloat h (hend value)
      exact ⟨[], hrest, htakes⟩

/-- What stands behind the letter and the sign of an exponent. -/
def unsignedExponent (negative : Bool) (significand : Nat) (start : Int) (down : Bool) :
    List Char → Except Fault (Json.Number × List Char)
  | [] => faultBefore .endInValue []
  | c :: rest =>
    if c.isDigit then readExponentDigits negative significand start down (digitValue c) rest
    else faultAt .invalidNumber (c :: rest)

theorem takes_of_unsignedExponent {start : Int}
    (h : unsignedExponent negative significand start down s = .ok (n, rest)) :
    ∃ c text, s = c :: (text ++ rest) ∧
      Takes (unsignedExponent negative significand start down) (c :: text) n := by
  unfold unsignedExponent at h
  split at h
  · cases h
  next c s =>
  split at h
  · next hc =>
    obtain ⟨text, rfl, htakes⟩ := takes_of_readExponentDigits h
    refine ⟨c, text, rfl, htakes.cons (by simp [isNumberChar, hc]) fun more => ?_⟩
    rw [unsignedExponent, if_pos hc]
  · cases h

theorem takes_of_readExponent {start : Int}
    (h : readExponent negative significand start s = .ok (n, rest)) :
    ∃ text, s = text ++ rest ∧ Takes (readExponent negative significand start) text n := by
  -- A plus sign changes nothing, a minus sign turns the exponent round, and a digit is read as it
  -- is.
  have hplus : ∀ more, readExponent negative significand start ('+' :: more) =
      unsignedExponent negative significand start false more := by
    intro more
    cases more <;> rfl
  have hminus : ∀ more, readExponent negative significand start ('-' :: more) =
      unsignedExponent negative significand start true more := by
    intro more
    cases more <;> rfl
  have hbare : ∀ c more, c ≠ '+' → c ≠ '-' → readExponent negative significand start (c :: more) =
      unsignedExponent negative significand start false (c :: more) := by
    intro c more hcp hcm
    simp [readExponent, unsignedExponent, hcp, hcm]
  cases s with
  | nil => cases h
  | cons c s =>
    by_cases hcp : c = '+'
    · subst hcp
      rw [hplus] at h
      obtain ⟨d, text, rfl, htakes⟩ := takes_of_unsignedExponent h
      exact ⟨'+' :: d :: text, rfl, htakes.cons rfl hplus⟩
    by_cases hcm : c = '-'
    · subst hcm
      rw [hminus] at h
      obtain ⟨d, text, rfl, htakes⟩ := takes_of_unsignedExponent h
      exact ⟨'-' :: d :: text, rfl, htakes.cons rfl hminus⟩
    rw [hbare c s hcp hcm] at h
    obtain ⟨d, text, hs, htakes⟩ := takes_of_unsignedExponent h
    obtain ⟨rfl, rfl⟩ := List.cons.inj hs
    refine ⟨c :: text, rfl, htakes.chars, fun more hmore => ?_⟩
    -- The first digit is still there to be read.
    rw [List.cons_append, hbare c (text ++ more) hcp hcm]
    exact htakes.reads more hmore

theorem takes_of_readAfterDigits
    (h : readAfterDigits negative significand exponent s = .ok (n, rest)) :
    ∃ text, s = text ++ rest ∧ Takes (readAfterDigits negative significand exponent) text n := by
  unfold readAfterDigits at h
  split at h
  · obtain ⟨text, rfl, htakes⟩ := takes_of_readExponent h
    exact ⟨'e' :: text, rfl, htakes.cons rfl fun more => rfl⟩
  · obtain ⟨text, rfl, htakes⟩ := takes_of_readExponent h
    exact ⟨'E' :: text, rfl, htakes.cons rfl fun more => rfl⟩
  · have hend : ∀ more, EndsValue more →
        readAfterDigits negative significand exponent more =
          makeFloat negative significand exponent more := by
      intro more hmore
      unfold readAfterDigits
      split
      · exact absurd (hmore.isNumberChar_eq_false 'e' rfl) (by decide)
      · exact absurd (hmore.isNumberChar_eq_false 'E' rfl) (by decide)
      · rfl
    obtain ⟨hrest, htakes⟩ := takes_of_makeFloat h hend
    exact ⟨[], hrest, htakes⟩

theorem takes_of_readFraction (h : readFraction negative significand exponent s = .ok (n, rest)) :
    ∃ text, s = text ++ rest ∧ Takes (readFraction negative significand exponent) text n := by
  obtain ⟨digits, behind, rfl, hdigits, hbehind⟩ := exists_digits_append s
  obtain ⟨htake, hdrop⟩ := span_digits hdigits hbehind
  unfold readFraction at h
  simp only [htake, hdrop] at h
  split at h
  -- A point without digits behind it is refused.
  · split at h <;> cases h
  next hne =>
  obtain ⟨text, rfl, htakes⟩ := takes_of_readAfterDigits h
  refine ⟨digits ++ text, by simp, htakes.append hdigits (head?_isDigit_of_append hbehind) ?_⟩
  intro more hmore
  obtain ⟨htake, hdrop⟩ := span_digits hdigits hmore
  simp only [readFraction, htake, hdrop, if_neg hne]

theorem takes_of_readBehindDigits {dropped : Int}
    (h : readBehindDigits negative significand dropped s = .ok (n, rest)) :
    ∃ text, s = text ++ rest ∧ Takes (readBehindDigits negative significand dropped) text n := by
  unfold readBehindDigits at h
  split at h
  · obtain ⟨text, rfl, htakes⟩ := takes_of_readFraction h
    exact ⟨'.' :: text, rfl, htakes.cons rfl fun more => rfl⟩
  · obtain ⟨text, rfl, htakes⟩ := takes_of_readExponent h
    exact ⟨'e' :: text, rfl, htakes.cons rfl fun more => rfl⟩
  · obtain ⟨text, rfl, htakes⟩ := takes_of_readExponent h
    exact ⟨'E' :: text, rfl, htakes.cons rfl fun more => rfl⟩
  -- Neither a point nor an exponent follows: the number is an integer as long as no digit was
  -- dropped.
  · split at h
    · next hzero =>
      obtain ⟨rfl, rfl⟩ := Prod.mk.inj (Except.ok.inj h)
      refine ⟨[], rfl, .nil fun more hmore => ?_⟩
      rw [hmore.readBehindDigits_eq, if_pos hzero]
    · next hzero =>
      have hfloat : ∀ more, EndsValue more → readBehindDigits negative significand dropped more =
          makeFloat negative significand dropped more := by
        intro more hmore
        rw [hmore.readBehindDigits_eq, if_neg hzero]
      obtain ⟨hrest, htakes⟩ := takes_of_makeFloat h hfloat
      exact ⟨[], hrest, htakes⟩

theorem takes_of_readNumber (h : readNumber negative s = .ok (n, rest)) :
    ∃ c text, s = c :: (text ++ rest) ∧ c.isDigit = true ∧
      Takes (readNumber negative) (c :: text) n := by
  cases s with
  | nil => cases h
  | cons c s =>
    cases hc : c.isDigit with
    | false => simp [readNumber, hc, faultAt] at h
    | true =>
      obtain ⟨digits, behind, rfl, hdigits, hbehind⟩ := exists_digits_append s
      -- Digits behind the first one are allowed unless that is a zero.
      by_cases hzero : c = '0' → digits = []
      · rw [readNumber_append negative hc hdigits hzero hbehind] at h
        obtain ⟨text, rfl, htakes⟩ := takes_of_readBehindDigits h
        refine ⟨c, digits ++ text, by simp, hc, ?_⟩
        have hall : ∀ d ∈ c :: digits, d.isDigit = true := by
          intro d hd
          rcases List.mem_cons.1 hd with rfl | hmem
          · exact hc
          · exact hdigits d hmem
        exact htakes.append hall (head?_isDigit_of_append hbehind) fun more hmore =>
          readNumber_append negative hc hdigits hzero hmore
      · -- A digit behind a leading zero is refused.
        obtain ⟨rfl, hne⟩ : c = '0' ∧ digits ≠ [] := by
          by_cases hc0 : c = '0'
          · exact ⟨hc0, fun hnil => hzero fun _ => hnil⟩
          · exact absurd (fun h0 => absurd h0 hc0) hzero
        obtain ⟨d, digits, rfl⟩ := List.exists_cons_of_ne_nil hne
        have hd : d.isDigit = true := hdigits d List.mem_cons_self
        simp [readNumber, hd, faultAt] at h

end Readers

/-! ## Numbers as values -/

/-- The text of a number, which is read as that number in front of anything that may follow a
value. -/
structure Numeral (text : List Char) (n : Json.Number) : Prop where
  chars : ∀ c ∈ text, isNumberChar c = true
  ne_nil : text ≠ []
  reads : ∀ fuel depth rest, EndsValue rest →
    readValue (fuel + 1) depth (text ++ rest) = .ok (.number n, rest)

/-- What has been read as a number is one, with its sign or without one. -/
theorem exists_numeral_of_readNumber {negative : Bool} {s rest : List Char} {n : Json.Number}
    (h : readNumber negative s = .ok (n, rest)) :
    ∃ text, s = text ++ rest ∧ Numeral (if negative then '-' :: text else text) n := by
  obtain ⟨c, text, rfl, hc, htakes⟩ := takes_of_readNumber h
  refine ⟨c :: text, rfl, ?_⟩
  cases negative with
  | false =>
    refine ⟨htakes.chars, List.cons_ne_nil _ _, fun fuel depth rest hrest => ?_⟩
    have hread := htakes.reads rest hrest
    rw [List.cons_append] at hread
    simp only [Bool.false_eq_true, if_false, List.cons_append, readValue_of_isDigit fuel depth hc,
      hread, numberValue]
  | true =>
    refine ⟨?_, List.cons_ne_nil _ _, fun fuel depth rest hrest => ?_⟩
    · intro d hd
      rcases List.mem_cons.1 hd with rfl | hmem
      · rfl
      · exact htakes.chars d hmem
    · have hread := htakes.reads rest hrest
      rw [List.cons_append] at hread
      simp only [if_true, List.cons_append, readValue_minus, hread, numberValue]

end Deskhand.Json
