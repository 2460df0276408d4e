/-
  Deskhand.Proofs.Json.Content

  What is read as a string.

  Between its quotes a string is a sequence of characters, each of them written as itself or as an
  escape. This is all that the reader accepts, and it accepts all of it: from what has been read one
  gets back how it was written, and what is written so is read whatever follows the closing quote. A
  literal is one of the ways to write a string.

  An escape is made of a quote, slashes, letters and digits. Passes that look for other characters
  therefore see nothing of it.
-/

import Deskhand.Proofs.Json.Literal
import Deskhand.Proofs.Text.Literals

namespace Deskhand.Json

open Deskhand.Text

/-! ## The grammar of a string -/

/-- What may stand behind the backslash of an escape: one character, or the digits of one or of two
code units. -/
inductive EscapeTail : List Char → Prop where
  | letter {c : Char} (escape : isEscapeChar c = true ∨ c = '/') : EscapeTail [c]
  | unit {digits : List Char} (digit : ∀ d ∈ digits, d.isAlphanum = true) :
      EscapeTail ('u' :: digits)
  | pair {leading trailing : List Char} (digit : ∀ d ∈ leading ++ trailing, d.isAlphanum = true) :
      EscapeTail ('u' :: (leading ++ '\\' :: 'u' :: trailing))

/-- How a character may be written in a string. -/
inductive Coded (c : Char) : List Char → Prop where
  | plain (notQuote : c ≠ '"') (notBackslash : c ≠ '\\') (visible : 0x20 ≤ c.toNat) : Coded c [c]
  | escape {tail : List Char} (shape : EscapeTail tail)
      (reads : ∀ rest, readEscape (tail ++ rest) = .ok (.char c (tail.length + 1))) :
      Coded c ('\\' :: tail)

/-- What stands between the quotes of a string, and the text that it is read as. -/
inductive Content : List Char → List Char → Prop where
  | nil : Content [] []
  | cons {c : Char} {written raw text : List Char} (coded : Coded c written)
      (content : Content raw text) : Content (written ++ raw) (c :: text)

/-- No character other than a quote, a slash, a letter or a digit stands in an escape. -/
theorem EscapeTail.notMem {tail : List Char} (h : EscapeTail tail) {c : Char}
    (hc : isEscapeChar c = false) (hslash : c ≠ '/') : c ∉ tail := by
  have hmark : c ≠ '"' ∧ c ≠ '\\' ∧ c.isAlphanum = false := by
    simpa [isEscapeChar, not_or, and_assoc] using hc
  obtain ⟨hquote, hbackslash, halphanum⟩ := hmark
  have hu : c ≠ 'u' := by
    rintro rfl
    exact absurd halphanum (by decide)
  intro hmem
  cases h with
  | letter escape =>
    obtain rfl := List.mem_singleton.1 hmem
    rcases escape with hescape | hsame
    · rw [hc] at hescape
      cases hescape
    · exact hslash hsame
  | unit digit =>
    rcases List.mem_cons.1 hmem with hsame | hdigits
    · exact hu hsame
    · rw [digit c hdigits] at halphanum
      cases halphanum
  | @pair leading trailing digit =>
    have hplaces : c ∈ leading ++ trailing := by
      simpa [hu, hbackslash] using hmem
    rw [digit c hplaces] at halphanum
    cases halphanum

theorem ne_quote_of_isAlphanum {c : Char} (h : c.isAlphanum = true) : c ≠ '"' ∧ c ≠ '\\' := by
  constructor
  · rintro rfl
    exact absurd h (by decide)
  · rintro rfl
    exact absurd h (by decide)

/-- An escape takes a quote that is in it along. -/
theorem EscapeTail.enclosed {tail behind : List Char} (h : EscapeTail tail)
    (hbehind : Enclosed (fun _ => True) behind) :
    Enclosed (fun _ => True) ('\\' :: tail ++ behind) := by
  cases h with
  | letter escape => exact .escape trivial hbehind
  | unit digit =>
    exact .escape trivial (hbehind.append_plain fun d hd => ne_quote_of_isAlphanum (digit d hd))
  | @pair leading trailing digit =>
    have htrailing := hbehind.append_plain fun d hd =>
      ne_quote_of_isAlphanum (digit d (List.mem_append_right leading hd))
    have hunit : Enclosed (fun _ => True) ('\\' :: 'u' :: (trailing ++ behind)) :=
      .escape trivial htrailing
    have hleading := hunit.append_plain fun d hd =>
      ne_quote_of_isAlphanum (digit d (List.mem_append_left trailing hd))
    simpa using Enclosed.escape (c := 'u') trivial hleading

/-- What stands between the quotes of a string has no quote of its own. -/
theorem Content.enclosed {raw text : List Char} (h : Content raw text) :
    Enclosed (fun _ => True) raw := by
  induction h with
  | nil => exact .nil
  | cons coded _ ih =>
    cases coded with
    | plain notQuote notBackslash _ => exact .plain notQuote notBackslash ih
    | escape shape _ => exact shape.enclosed ih

/-- A character that begins no escape is written as itself. -/
theorem Content.of_cons {c : Char} {raw text : List Char} (h : Content (c :: raw) text)
    (hc : c ≠ '\\') : ∃ rest, text = c :: rest ∧ 0x20 ≤ c.toNat ∧ c ≠ '"' ∧ Content raw rest := by
  generalize hwhole : c :: raw = whole at h
  cases h with
  | nil => cases hwhole
  | cons coded content =>
    cases coded with
    | plain notQuote _ visible =>
      obtain ⟨rfl, rfl⟩ := List.cons.inj hwhole
      exact ⟨_, rfl, visible, notQuote, content⟩
    | escape shape reads => exact absurd (List.cons.inj hwhole).1 hc

/-! ## What has been read -/

theorem isAlphanum_of_hexDigit? {c : Char} {n : Nat} (h : hexDigit? c = some n) :
    c.isAlphanum = true := by
  -- Below the letter g all characters are checked by evaluation.
  have hall : ∀ n < 0x67, (hexDigit? (Char.ofNat n)).isSome = true →
      (Char.ofNat n).isAlphanum = true := by decide
  rcases Nat.lt_or_ge c.toNat 0x67 with hlow | hhigh
  · have hc := hall c.toNat hlow
    rw [Char.ofNat_toNat, h] at hc
    exact hc rfl
  · -- The last hexadecimal digit is the letter f.
    have hlarge : ∀ d : Char, d.toNat < 0x67 → ¬ c ≤ d := by
      intro d hd hle
      exact Nat.not_lt.2 hhigh (Nat.lt_of_le_of_lt hle hd)
    simp [hexDigit?, hlarge '9' (by decide), hlarge 'f' (by decide), hlarge 'F' (by decide)] at h

theorem exists_digits_of_readQuad {s : List Char} {n : Nat} (h : readQuad s = .ok n) :
    ∃ digits rest, s = digits ++ rest ∧ digits.length = 4 ∧
      (∀ d ∈ digits, d.isAlphanum = true) ∧ ∀ more, readQuad (digits ++ more) = .ok n := by
  have hrefused : ∀ (b : Prop) [Decidable b] (first second : Fault),
      (if b then Except.error first else Except.error second : Except Fault Nat) ≠ .ok n := by
    intro b _ first second
    split <;> exact nofun
  -- Four characters come first, and all of them have to be hexadecimal digits.
  unfold readQuad at h
  simp only at h
  split at h
  · next a b c d rest =>
    cases hquad : hexQuad? a b c d with
    | none =>
      rw [hquad] at h
      exact absurd h (hrefused _ _ _)
    | some m =>
      rw [hquad] at h
      obtain rfl : m = n := Except.ok.inj h
      refine ⟨[a, b, c, d], rest, rfl, rfl, ?_, fun more => ?_⟩
      · simp only [hexQuad?, Option.bind_eq_bind, Option.bind_eq_some_iff] at hquad
        obtain ⟨_, ha, _, hb, _, hc, _, hd, -⟩ := hquad
        intro e he
        simp only [List.mem_cons, List.not_mem_nil, or_false] at he
        rcases he with rfl | rfl | rfl | rfl
        · exact isAlphanum_of_hexDigit? ha
        · exact isAlphanum_of_hexDigit? hb
        · exact isAlphanum_of_hexDigit? hc
        · exact isAlphanum_of_hexDigit? hd
      · simp only [readQuad, List.cons_append, List.nil_append, hquad, Option.elim_some]
  · exact absurd h (hrefused _ _ _)

theorem exists_digits_of_readTrailing {leading : Nat} {s : List Char} {part : StringPart}
    (h : readTrailing leading s = .ok part) :
    ∃ c digits rest, part = .char c 12 ∧ s = '\\' :: 'u' :: (digits ++ rest) ∧
      digits.length = 4 ∧ (∀ d ∈ digits, d.isAlphanum = true) ∧
      ∀ more, readTrailing leading ('\\' :: 'u' :: (digits ++ more)) = .ok (.char c 12) := by
  unfold readTrailing at h
  split at h
  · next after =>
    split at h
    · cases h
    · next trailing hquad =>
      obtain ⟨digits, rest, rfl, hlength, hdigits, hreads⟩ := exists_digits_of_readQuad hquad
      split at h
      · next htrailing =>
        refine ⟨_, digits, rest, (Except.ok.inj h).symm, rfl, hlength, hdigits, fun more => ?_⟩
        simp only [readTrailing, hreads, htrailing, if_true]
      · cases h
  -- Only a second escape can be the other half.
  all_goals cases h

theorem coded_of_readUnicode {s : List Char} {part : StringPart} (h : readUnicode s = .ok part) :
    ∃ c tail rest, part = .char c (tail.length + 1) ∧ 'u' :: s = tail ++ rest ∧
      Coded c ('\\' :: tail) := by
  unfold readUnicode at h
  split at h
  · cases h
  next n hquad =>
  obtain ⟨digits, rest, rfl, hlength, hdigits, hreads⟩ := exists_digits_of_readQuad hquad
  have hdrop : ∀ more, (digits ++ more).drop 4 = more := by
    intro more
    rw [← hlength]
    exact List.drop_left
  -- A trailing surrogate cannot stand first.
  split at h
  · cases h
  next htrailing =>
  split at h
  · next hleading =>
    -- A leading surrogate wants its other half.
    rw [hdrop] at h
    obtain ⟨c, others, rest, rfl, rfl, hothers, hotherDigits, hpair⟩ :=
      exists_digits_of_readTrailing h
    have hlong : ('u' :: (digits ++ '\\' :: 'u' :: others)).length + 1 = 12 := by
      simp [hlength, hothers]
    refine ⟨c, 'u' :: (digits ++ '\\' :: 'u' :: others), rest, ?_, ?_, ?_⟩
    · rw [hlong]
    · simp
    · refine .escape (.pair fun d hd => ?_) fun more => ?_
      · exact (List.mem_append.1 hd).elim (hdigits d) (hotherDigits d)
      · rw [hlong]
        simp only [readEscape, readUnicode, List.cons_append, List.append_assoc, hreads, htrailing,
          hleading, hdrop, hpair, if_true, Bool.false_eq_true, if_false]
  · next hleading =>
    -- Any other unit is a character of its own, and the escape has six characters.
    have hlong : ('u' :: digits).length + 1 = 6 := by simp [hlength]
    refine ⟨Char.ofNat n, 'u' :: digits, rest, ?_, rfl, ?_⟩
    · rw [hlong]
      exact (Except.ok.inj h).symm
    · refine .escape (.unit hdigits) fun more => ?_
      rw [hlong]
      simp only [readEscape, readUnicode, List.cons_append, hreads, htrailing, hleading,
        Bool.false_eq_true, if_false]

theorem coded_of_readEscape {s : List Char} {part : StringPart} (h : readEscape s = .ok part) :
    ∃ c tail rest,
      part = .char c (tail.length + 1) ∧ s = tail ++ rest ∧ Coded c ('\\' :: tail) := by
  unfold readEscape at h
  split at h
  · cases h
  · exact coded_of_readUnicode h
  -- The eight letters are each read alone.
  iterate 8
    next rest =>
      obtain rfl := Except.ok.inj h
      exact ⟨_, [_], rest, rfl, rfl, .escape (.letter (by decide)) fun _ => rfl⟩
  · cases h

/-- What has been read at one position of a string: its closing quote or a character. -/
theorem coded_of_readPart {c : Char} {s : List Char} {part : StringPart}
    (h : readPart c s = .ok part) :
    (c = '"' ∧ part = .close) ∨
      ∃ d tail rest, part = .char d (tail.length + 1) ∧ s = tail ++ rest ∧ Coded d (c :: tail) := by
  unfold readPart at h
  split at h
  · next hquote => exact .inl ⟨hquote, (Except.ok.inj h).symm⟩
  next hquote =>
  right
  split at h
  · next hbackslash =>
    subst hbackslash
    exact coded_of_readEscape h
  next hbackslash =>
  split at h
  · cases h
  next hcontrol =>
  obtain rfl := Except.ok.inj h
  exact ⟨c, [], s, rfl, rfl, .plain hquote hbackslash (Nat.not_lt.1 hcontrol)⟩

theorem readStringFrom_append (used rest : List Char) :
    readStringFrom used.length (used ++ rest) = readStringFrom 0 rest := by
  induction used with
  | nil => rfl
  | cons c used ih => simpa [readStringFrom] using ih

/-- What has been read as a string was written as one. -/
theorem exists_content_of_readStringFrom {s text rest : List Char}
    (h : readStringFrom 0 s = .ok (text, rest)) :
    ∃ raw, s = raw ++ '"' :: rest ∧ Content raw text := by
  -- What follows a character is not the tail of the text as soon as an escape takes several, so the
  -- induction is on the length.
  induction hn : s.length using Nat.strongRecOn generalizing s text with
  | ind n ih =>
    subst hn
    cases s with
    | nil => cases h
    | cons c s =>
      rw [readStringFrom] at h
      split at h
      · cases h
      · next hpart =>
        rcases coded_of_readPart hpart with ⟨rfl, -⟩ | ⟨d, tail, more, hchar, -, -⟩
        · obtain ⟨rfl, rfl⟩ := Prod.mk.inj (Except.ok.inj h)
          exact ⟨[], rfl, .nil⟩
        · cases hchar
      · next value used hpart =>
        rcases coded_of_readPart hpart with ⟨-, hclose⟩ | ⟨d, tail, more, hchar, rfl, hcoded⟩
        · cases hclose
        obtain ⟨rfl, rfl⟩ := StringPart.char.inj hchar
        -- The reader goes on behind the characters that write this one.
        rw [Nat.add_sub_cancel, readStringFrom_append] at h
        split at h
        · cases h
        next others rest' hothers =>
        obtain ⟨rfl, rfl⟩ := Prod.mk.inj (Except.ok.inj h)
        have hshorter : more.length < (c :: (tail ++ more)).length := by
          simp only [List.length_cons, List.length_append]
          omega
        obtain ⟨raw, rfl, hcontent⟩ := ih more.length hshorter hothers rfl
        exact ⟨c :: tail ++ raw, by simp, .cons hcoded hcontent⟩

theorem exists_content_of_readString {s rest : List Char} {value : String}
    (h : readString s = .ok (value, rest)) :
    ∃ raw text, s = raw ++ '"' :: rest ∧ value = String.ofList text ∧ Content raw text := by
  unfold readString at h
  split at h
  · cases h
  next text behind hread =>
  obtain ⟨rfl, rfl⟩ := Prod.mk.inj (Except.ok.inj h)
  obtain ⟨raw, hs, hcontent⟩ := exists_content_of_readStringFrom hread
  exact ⟨raw, text, hs, rfl, hcontent⟩

/-! ## Reading what is written -/

theorem readStringFrom_coded {c : Char} {written : List Char} (h : Coded c written)
    {s text rest : List Char} (hs : readStringFrom 0 s = .ok (text, rest)) :
    readStringFrom 0 (written ++ s) = .ok (c :: text, rest) := by
  cases h with
  | plain notQuote notBackslash visible =>
    have hpart : readPart c s = .ok (.char c 1) := by
      simp [readPart, notQuote, notBackslash, Nat.not_lt.2 visible]
    simp [readStringFrom, hpart, hs]
  | @escape tail shape reads =>
    have hpart : readPart '\\' (tail ++ s) = .ok (.char c (tail.length + 1)) := reads s
    simp [readStringFrom, hpart, readStringFrom_append, hs]

/-- What is written as a string is read as its text, whatever follows the closing quote. -/
theorem Content.readStringFrom {raw text : List Char} (h : Content raw text) (rest : List Char) :
    readStringFrom 0 (raw ++ '"' :: rest) = .ok (text, rest) := by
  induction h with
  | nil => rfl
  | cons coded _ ih =>
    rw [List.append_assoc]
    exact readStringFrom_coded coded ih

theorem Content.readString {raw text : List Char} (h : Content raw text) (rest : List Char) :
    readString (raw ++ '"' :: rest) = .ok (String.ofList text, rest) := by
  simp [Json.readString, h.readStringFrom]

theorem Content.readValue {raw text : List Char} (h : Content raw text) (fuel depth : Nat)
    (rest : List Char) :
    readValue (fuel + 1) depth ('"' :: (raw ++ '"' :: rest)) =
      .ok (.string (String.ofList text), rest) := by
  have hspace : ∀ s, skipSpace ('"' :: s) = '"' :: s := by
    intro s
    simp [skipSpace, isSpace]
  simp only [Json.readValue, hspace, h.readString]

/-! ## Literals -/

/-- A hexadecimal escape of a control character is read back. -/
theorem readEscape_hex {c : Char} (control : c.toNat < 0x20) (rest : List Char) :
    readEscape ('u' :: '0' :: '0' :: (hexPair c.toNat ++ rest)) = .ok (.char c 6) := by
  -- All control characters are checked by evaluation.
  have hquad : ∀ n < 0x20,
      hexQuad? '0' '0' (Nat.digitChar (n / 16)) (Nat.digitChar (n % 16)) = some n := by
    decide
  -- A control character is a whole character: no half of a pair has so small a unit.
  have htrailing : isTrailing c.toNat = false := by
    simp [isTrailing]
    omega
  have hleading : isLeading c.toNat = false := by
    simp [isLeading]
    omega
  simp [readEscape, readUnicode, readQuad, hexPair, hquad c.toNat control, htrailing, hleading]

theorem Written.coded {c : Char} {written : List Char} (h : Written c written) :
    Coded c written := by
  cases h with
  | plain notQuote notBackslash visible => exact .plain notQuote notBackslash visible
  | short letter reads escape => exact .escape (.letter (.inl escape)) reads
  | hex control =>
    refine .escape (.unit fun d hd => ?_) fun rest => readEscape_hex control rest
    rcases List.mem_cons.1 hd with rfl | hd
    · rfl
    rcases List.mem_cons.1 hd with rfl | hpair
    · rfl
    · exact isAlphanum_hexPair control hpair

theorem content_literal (s : List Char) : Content (s.flatMap escapeChar) s := by
  induction s with
  | nil => exact .nil
  | cons c s ih => exact .cons (written_escapeChar c).coded ih

/-- A literal is a string value, whatever follows it. -/
theorem readValue_literal (fuel depth : Nat) (s rest : List Char) :
    readValue (fuel + 1) depth (literal s ++ rest) = .ok (.string (String.ofList s), rest) := by
  have hread := (content_literal s).readValue fuel depth rest
  rw [← hread]
  simp [literal]

end Deskhand.Json
