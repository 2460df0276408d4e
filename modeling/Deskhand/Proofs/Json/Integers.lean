/-
  Deskhand.Proofs.Json.Integers

  Integers in documents.

  An integer that fits 64 bits, with a sign or without one, is written with its decimal digits and
  read back from them, in front of whatever may follow a value. The digits of a number never begin
  with a zero unless there is nothing else, which is what the reader insists on, and their value is
  gathered without ever leaving the 64 bits, since it only grows.
-/

import Deskhand.Proofs.Json.Items

namespace Deskhand.Json

open Deskhand.Number

/-- The integers that fit 64 bits, with a sign or without one. -/
def Fits (n : Int) : Prop := -(maxI64 + 1 : Int) ≤ n ∧ n ≤ maxU64

instance (n : Int) : Decidable (Fits n) :=
  inferInstanceAs (Decidable (-(maxI64 + 1 : Int) ≤ n ∧ n ≤ maxU64))

/-! ## Digits -/

/-- Only a number of one digit begins with a zero. -/
theorem eq_nil_of_toDigits_eq_cons {n : Nat} {digits : List Char}
    (h : Nat.toDigits 10 n = '0' :: digits) : digits = [] := by
  induction n using Nat.strongRecOn generalizing digits with
  | ind n ih =>
    rcases Nat.lt_or_ge n 10 with hsmall | hlarge
    · rw [Nat.toDigits_of_lt_base hsmall] at h
      exact (List.cons.inj h).2.symm
    · rw [Nat.toDigits_of_base_le (by decide) hlarge] at h
      -- A number of several digits begins with the digits of its tenth.
      obtain ⟨c, more, hmore⟩ := List.exists_cons_of_ne_nil (Nat.toDigits_ne_nil (n := n / 10))
      rw [hmore, List.cons_append] at h
      obtain ⟨rfl, -⟩ := List.cons.inj h
      -- The digits but the last one would be a zero alone, and the number less than ten.
      obtain rfl := ih (n / 10) (by omega) hmore
      have hvalue : Nat.ofDigitChars 10 (Nat.toDigits 10 (n / 10)) 0 = n / 10 :=
        Nat.ofDigitChars_ten_toDigits
      rw [hmore] at hvalue
      have hzero : Nat.ofDigitChars 10 ['0'] 0 = 0 := rfl
      omega

theorem le_ofDigitChars (digits : List Char) (n : Nat) : n ≤ Nat.ofDigitChars 10 digits n := by
  induction digits generalizing n with
  | nil => exact Nat.le_refl n
  | cons c digits ih =>
    have hnext := ih (10 * n + (c.toNat - '0'.toNat))
    rw [Nat.ofDigitChars_cons]
    omega

theorem takeDigits_of_le {digits : List Char} {n : Nat}
    (h : Nat.ofDigitChars 10 digits n ≤ maxU64) :
    takeDigits n digits = (Nat.ofDigitChars 10 digits n, digits.length) := by
  induction digits generalizing n with
  | nil => rfl
  | cons c digits ih =>
    rw [Nat.ofDigitChars_cons] at h ⊢
    have hnext : 10 * n + digitValue c ≤ maxU64 :=
      Nat.le_trans (le_ofDigitChars digits (10 * n + digitValue c)) h
    have hrest := ih h
    simp only [takeDigits, if_pos hnext]
    -- The value of a digit is its distance from the zero, by definition.
    rw [show 10 * n + digitValue c = 10 * n + (c.toNat - '0'.toNat) from rfl, hrest]
    rfl

/-! ## Reading -/

theorem EndsValue.isDigit_eq_false {rest : List Char} (h : EndsValue rest) :
    ∀ c ∈ rest.head?, c.isDigit = false := by
  intro c hc
  rcases h c hc with hspace | rfl | rfl | rfl
  · simp only [isSpace, Bool.or_eq_true, beq_iff_eq] at hspace
    rcases hspace with ((rfl | rfl) | rfl) | rfl <;> rfl
  · rfl
  · rfl
  · rfl

theorem span_digits {digits rest : List Char} (hdigits : ∀ c ∈ digits, c.isDigit = true)
    (hrest : ∀ c ∈ rest.head?, c.isDigit = false) :
    (digits ++ rest).takeWhile Char.isDigit = digits ∧
      (digits ++ rest).dropWhile Char.isDigit = rest := by
  rw [List.takeWhile_append_of_pos hdigits, List.dropWhile_append_of_pos hdigits]
  cases rest with
  | nil => simp
  | cons c more => simp [hrest c rfl]

/-- What may follow the digits in front of the point. -/
def readBehindDigits (negative : Bool) (significand : Nat) (dropped : Int) (s : List Char) :
    Except Fault (Json.Number × List Char) :=
  match s with
  | '.' :: rest => readFraction negative significand dropped rest
  | 'e' :: rest | 'E' :: rest => readExponent negative significand dropped rest
  | rest =>
    if dropped = 0 then .ok (makeInteger negative significand, rest)
    else makeFloat negative significand dropped rest

/-- Where a value ends, neither a point nor an exponent follows its digits. -/
theorem EndsValue.readBehindDigits_eq {rest : List Char} (h : EndsValue rest) (negative : Bool)
    (significand : Nat) (dropped : Int) :
    readBehindDigits negative significand dropped rest =
      if dropped = 0 then .ok (makeInteger negative significand, rest)
      else makeFloat negative significand dropped rest := by
  unfold readBehindDigits
  split
  · exact absurd (h '.' rfl) (by decide)
  · exact absurd (h 'e' rfl) (by decide)
  · exact absurd (h 'E' rfl) (by decide)
  · rfl

/-- A number is read by its digits first, a zero standing alone. -/
theorem readNumber_append (negative : Bool) {c : Char} {digits s : List Char}
    (hc : c.isDigit = true) (hdigits : ∀ d ∈ digits, d.isDigit = true)
    (hzero : c = '0' → digits = []) (hs : ∀ d ∈ s.head?, d.isDigit = false) :
    readNumber negative (c :: (digits ++ s)) =
      readBehindDigits negative (takeDigits 0 (c :: digits)).1
        ((c :: digits).length - (takeDigits 0 (c :: digits)).2) s := by
  -- After a zero there are no digits, so both branches take the same front.
  obtain ⟨htake, hdrop⟩ := span_digits hdigits hs
  have hfront : (if c = '0' then [c] else (c :: (digits ++ s)).takeWhile Char.isDigit) =
      c :: digits := by
    split
    · next h => rw [hzero h]
    · rw [List.takeWhile_cons_of_pos hc, htake]
  have hback : (if c = '0' then digits ++ s
      else (c :: (digits ++ s)).dropWhile Char.isDigit) = s := by
    split
    · next h => rw [hzero h, List.nil_append]
    · rw [List.dropWhile_cons_of_pos hc, hdrop]
  -- A second digit behind a zero is what the reader refuses.
  have hleading : ¬ (c = '0' ∧ (digits ++ s).head?.any Char.isDigit = true) := by
    rintro ⟨h, hany⟩
    rw [hzero h, List.nil_append] at hany
    obtain ⟨d, hd, hdigit⟩ := (Option.any_eq_true _ _).1 hany
    rw [hs d hd] at hdigit
    cases hdigit
  simp only [readNumber, hc, hleading, hfront, hback, Bool.not_true, Bool.false_eq_true, if_false]
  rfl

/-- Digits that do not begin with a zero, unless there is only one, are read as the integer whose
value they have. -/
theorem readNumber_digits (negative : Bool) {c : Char} {digits rest : List Char} {n : Nat}
    (hdigits : ∀ d ∈ c :: digits, d.isDigit = true) (hzero : c = '0' → digits = [])
    (htaken : takeDigits 0 (c :: digits) = (n, (c :: digits).length)) (hrest : EndsValue rest) :
    readNumber negative (c :: digits ++ rest) = .ok (makeInteger negative n, rest) := by
  rw [List.cons_append, readNumber_append negative (hdigits c List.mem_cons_self)
    (fun d hd => hdigits d (List.mem_cons_of_mem c hd)) hzero hrest.isDigit_eq_false, htaken,
    hrest.readBehindDigits_eq, Int.sub_self, if_pos rfl]

theorem exists_toDigits_eq_cons (n : Nat) :
    ∃ c digits, Nat.toDigits 10 n = c :: digits ∧ c.isDigit = true := by
  obtain ⟨c, digits, hcons⟩ := List.exists_cons_of_ne_nil (Nat.toDigits_ne_nil (b := 10) (n := n))
  have hmem : c ∈ Nat.toDigits 10 n := by
    rw [hcons]
    exact List.mem_cons_self
  exact ⟨c, digits, hcons, Nat.isDigit_of_mem_toDigits (by decide) (by decide) hmem⟩

/-- The digits of a number of 64 bits are read back. -/
theorem readNumber_toDigits (negative : Bool) {n : Nat} (hn : n ≤ maxU64) {rest : List Char}
    (hrest : EndsValue rest) :
    readNumber negative (Nat.toDigits 10 n ++ rest) = .ok (makeInteger negative n, rest) := by
  have hvalue : Nat.ofDigitChars 10 (Nat.toDigits 10 n) 0 = n := Nat.ofDigitChars_ten_toDigits
  have hsmall : Nat.ofDigitChars 10 (Nat.toDigits 10 n) 0 ≤ maxU64 := by rwa [hvalue]
  have htaken := takeDigits_of_le hsmall
  -- The number has digits only, and a zero only where it is zero itself.
  have hdigits : ∀ c ∈ Nat.toDigits 10 n, c.isDigit = true := fun c hc =>
    Nat.isDigit_of_mem_toDigits (by decide) (by decide) hc
  obtain ⟨c, digits, hcons, -⟩ := exists_toDigits_eq_cons n
  rw [hvalue, hcons] at htaken
  rw [hcons] at hdigits ⊢
  refine readNumber_digits negative hdigits ?_ htaken hrest
  rintro rfl
  exact eq_nil_of_toDigits_eq_cons hcons

/-! ## Values -/

theorem isSpace_eq_false_of_isDigit {c : Char} (h : c.isDigit = true) : isSpace c = false := by
  cases hspace : isSpace c with
  | false => rfl
  | true =>
    simp only [isSpace, Bool.or_eq_true, beq_iff_eq] at hspace
    rcases hspace with ((rfl | rfl) | rfl) | rfl <;> cases h

theorem readValue_of_isDigit (fuel depth : Nat) {c : Char} (hc : c.isDigit = true)
    (rest : List Char) :
    readValue (fuel + 1) depth (c :: rest) = numberValue (readNumber false (c :: rest)) := by
  have hskip := skipSpace_cons (isSpace_eq_false_of_isDigit hc) rest
  have hother {d : Char} {more : List Char} (hd : d.isDigit = false) : c :: rest ≠ d :: more := by
    intro h
    rw [(List.cons.inj h).1, hd] at hc
    cases hc
  simp only [readValue, hskip]
  split
  · next h => cases h
  -- None of the seven other characters that begin a value is a digit.
  iterate 7 next h => exact absurd h (hother rfl)
  · next h =>
    obtain ⟨rfl, rfl⟩ := List.cons.inj h
    rw [if_pos hc]

theorem readValue_minus (fuel depth : Nat) (rest : List Char) :
    readValue (fuel + 1) depth ('-' :: rest) = numberValue (readNumber true rest) := by
  have hskip : skipSpace ('-' :: rest) = '-' :: rest := skipSpace_cons (by decide) rest
  simp only [readValue, hskip]

theorem text_ofNat (n : Nat) :
    (Number.text (.integer (Int.ofNat n))).toList = Nat.toDigits 10 n := by
  show (Nat.repr n).toList = _
  rw [Nat.repr_eq_ofList_toDigits, String.toList_ofList]

theorem text_negSucc (n : Nat) :
    (Number.text (.integer (Int.negSucc n))).toList = '-' :: Nat.toDigits 10 (n + 1) := by
  show ("-" ++ Nat.repr (n + 1)).toList = _
  rw [String.toList_append, Nat.repr_eq_ofList_toDigits]
  simp

theorem readValue_ofNat (fuel depth : Nat) {n : Nat} (hn : n ≤ maxU64) {rest : List Char}
    (hrest : EndsValue rest) :
    readValue (fuel + 1) depth ((Number.text (.integer (Int.ofNat n))).toList ++ rest) =
      .ok (.number (.integer (Int.ofNat n)), rest) := by
  obtain ⟨c, digits, hcons, hc⟩ := exists_toDigits_eq_cons n
  have hread := readNumber_toDigits false hn hrest
  rw [text_ofNat]
  rw [hcons] at hread ⊢
  rw [List.cons_append, readValue_of_isDigit fuel depth hc, ← List.cons_append, hread]
  rfl

theorem readValue_negSucc (fuel depth : Nat) {n : Nat} (hn : n ≤ maxI64) {rest : List Char}
    (hrest : EndsValue rest) :
    readValue (fuel + 1) depth ((Number.text (.integer (Int.negSucc n))).toList ++ rest) =
      .ok (.number (.integer (Int.negSucc n)), rest) := by
  have hsmall : n + 1 ≤ maxU64 := Nat.le_trans (Nat.add_le_add_right hn 1) (by decide)
  have hmake : makeInteger true (n + 1) = .integer (Int.negSucc n) := by
    unfold makeInteger
    rw [if_pos rfl, if_pos ⟨Nat.succ_pos n, Nat.add_le_add_right hn 1⟩]
    rfl
  rw [text_negSucc, List.cons_append, readValue_minus, readNumber_toDigits true hsmall hrest, hmake]
  rfl

/-- An integer of 64 bits is read back in one step. -/
theorem readValue_integer (fuel depth : Nat) {n : Int} (h : Fits n) {rest : List Char}
    (hrest : EndsValue rest) :
    readValue (fuel + 1) depth ((Number.text (.integer n)).toList ++ rest) =
      .ok (.number (.integer n), rest) := by
  obtain ⟨hlower, hupper⟩ := h
  cases n with
  | ofNat m =>
    have hm : m ≤ maxU64 := Int.ofNat_le.1 hupper
    exact readValue_ofNat fuel depth hm hrest
  | negSucc m =>
    have hm : m ≤ maxI64 := by omega
    exact readValue_negSucc fuel depth hm hrest

end Deskhand.Json
