/-
  Deskhand.Proofs.Command.Tokens

  Tokens of argument text.

  The manual strategy cuts the text into tokens and asks of each what it stands for. A token in
  quotes ends at its closing quote and any other in front of the next comma; commas and blanks
  between the tokens belong to none. A text of pieces with commas between them and blanks around
  them is therefore read piece by piece, as long as each of them is taken whole in front of a comma
  or the end.
-/

import Deskhand.Command.Strategy
import Deskhand.Proofs.Text.Substitution

namespace Deskhand.Command

open Deskhand.Text

/-! ## Cutting -/

theorem tokensFrom_append (used rest : List Char) :
    tokensFrom used.length (used ++ rest) = tokens rest := by
  -- Each step takes a character off the text and one off what is to be skipped.
  induction used with
  | nil => rfl
  | cons c used ih =>
    rw [List.length_cons, List.cons_append, tokensFrom]
    exact ih

/-- A token is taken whole, and then those behind it. -/
theorem tokens_append {token rest : List Char} (htoken : token ≠ [])
    (h : tokenLength (token ++ rest) = token.length) :
    tokens (token ++ rest) = token :: tokens rest := by
  obtain ⟨c, used, rfl⟩ := List.exists_cons_of_ne_nil htoken
  have hskip := tokensFrom_append used rest
  rw [List.cons_append] at h ⊢
  show tokensFrom 0 (c :: (used ++ rest)) = _
  simp [tokensFrom, h, hskip]

/-- A character that may stand between two tokens. -/
def IsSeparator (c : Char) : Prop := c = ',' ∨ isBlank c = true

theorem tokens_cons {c : Char} (h : IsSeparator c) (rest : List Char) :
    tokens (c :: rest) = tokens rest := by
  -- No token starts at a comma or a blank.
  have hnone : tokenLength (c :: rest) = 0 := by
    simp only [tokenLength]
    rw [if_pos (by simpa [IsSeparator] using h)]
  show tokensFrom 0 (c :: rest) = _
  simp only [tokensFrom, hnone]
  rfl

theorem tokens_append_of_separators {gap : List Char} (h : ∀ c ∈ gap, IsSeparator c)
    (rest : List Char) : tokens (gap ++ rest) = tokens rest := by
  induction gap with
  | nil => rfl
  | cons c gap ih =>
    have hgap := ih fun d hd => h d (List.mem_cons_of_mem c hd)
    rw [List.cons_append, tokens_cons (h c List.mem_cons_self), hgap]

theorem tokens_append_of_blank {spaces : List Char} (h : ∀ c ∈ spaces, isBlank c = true)
    (rest : List Char) : tokens (spaces ++ rest) = tokens rest :=
  tokens_append_of_separators (fun c hc => .inr (h c hc)) rest

/-! ## Pieces between commas -/

/-- A text at which a piece ends: nothing, or a comma first. -/
def EndsPiece (s : List Char) : Prop := ∀ c ∈ s.head?, c = ','

/-- The text is taken for the argument, with the blanks behind it, wherever a piece ends there. -/
def ReadAs (text : List Char) (argument : Argument) : Prop :=
  ∀ after rest, (∀ c ∈ after, isBlank c = true) → EndsPiece rest →
    readManual (text ++ (after ++ rest)) = argument :: readManual rest

/-- A text that stands for an argument, with the blanks around it. -/
structure Piece where
  before : List Char
  text : List Char
  after : List Char
  argument : Argument
  blankBefore : ∀ c ∈ before, isBlank c = true
  blankAfter : ∀ c ∈ after, isBlank c = true
  readAs : ReadAs text argument

/-- The piece as it stands between two commas. -/
def Piece.chars (piece : Piece) : List Char := piece.before ++ (piece.text ++ piece.after)

/-- Pieces with commas between them. -/
def joined (pieces : List Piece) : List Char := List.intercalate [','] (pieces.map Piece.chars)

theorem readManual_piece (piece : Piece) {rest : List Char} (hrest : EndsPiece rest) :
    readManual (piece.chars ++ rest) = piece.argument :: readManual rest := by
  have hpiece := piece.readAs piece.after rest piece.blankAfter hrest
  have hblank : readManual (piece.before ++ (piece.text ++ (piece.after ++ rest))) =
      readManual (piece.text ++ (piece.after ++ rest)) := by
    rw [readManual, tokens_append_of_blank piece.blankBefore, readManual]
  rw [Piece.chars, List.append_assoc, List.append_assoc, hblank, hpiece]

/-- Parts with commas between them are read one by one, if each of them is read so wherever a piece
ends behind it. -/
theorem readManual_intercalate {α : Type} (chars : α → List Char)
    (arguments : α → List Argument) (items : List α)
    (h : ∀ item ∈ items, ∀ rest, EndsPiece rest →
      readManual (chars item ++ rest) = arguments item ++ readManual rest) :
    readManual ([','].intercalate (items.map chars)) = items.flatMap arguments := by
  cases items with
  | nil => rfl
  | cons first others =>
    -- Behind an item comes the comma of the next one, or nothing.
    have hends : ∀ others : List α, EndsPiece (others.flatMap fun item => ',' :: chars item) := by
      intro others c hc
      cases others with
      | nil => cases hc
      | cons item others => exact (Option.some.inj hc).symm
    have hothers : readManual (others.flatMap fun item => ',' :: chars item) =
        others.flatMap arguments := by
      replace h := fun item hitem => h item (List.mem_cons_of_mem first hitem)
      induction others with
      | nil => rfl
      | cons item others ih =>
        have hitem := h item List.mem_cons_self _ (hends others)
        have hlater := ih fun other hother => h other (List.mem_cons_of_mem item hother)
        -- A comma belongs to no token.
        have hcomma : ∀ s, readManual (',' :: s) = readManual s := by
          intro s
          rw [readManual, tokens_cons (.inl rfl), readManual]
        rw [List.flatMap_cons, List.cons_append, hcomma, hitem, hlater, List.flatMap_cons]
    have hjoined : [','].intercalate ((first :: others).map chars) =
        chars first ++ others.flatMap fun item => ',' :: chars item := by
      rw [List.map_cons, intercalate_cons, List.flatMap_map]
      rfl
    rw [hjoined, h first List.mem_cons_self _ (hends others), hothers, List.flatMap_cons]

theorem readManual_joined (pieces : List Piece) :
    readManual (joined pieces) = pieces.map Piece.argument := by
  have hread := readManual_intercalate Piece.chars (fun piece => [piece.argument]) pieces
    fun piece _ _ hrest => readManual_piece piece hrest
  rw [joined, hread, List.map_eq_flatMap]

/-! ## Texts in quotes -/

/-- A text with its quotes escaped. -/
def escapeQuotes (s : List Char) : List Char :=
  s.flatMap fun c => if c = '"' then ['\\', '"'] else [c]

/-- A text in quotes, its own quotes escaped. -/
def quotedToken (s : List Char) : List Char := '"' :: (escapeQuotes s ++ ['"'])

/-- The token ends at the first quote that is not escaped. -/
theorem quotedLength_escapeQuotes {s : List Char} (h : '\\' ∉ s) (rest : List Char) :
    quotedLength (escapeQuotes s ++ '"' :: rest) = some ((escapeQuotes s).length + 1) := by
  induction s with
  | nil => rfl
  | cons c s ih =>
    simp only [List.mem_cons, not_or] at h
    have hs := ih h.2
    by_cases hc : c = '"'
    · subst hc
      -- The backslash takes the quote with it.
      have hcons : escapeQuotes ('"' :: s) = '\\' :: '"' :: escapeQuotes s := rfl
      rw [hcons, List.cons_append, List.cons_append]
      simp [quotedLength, hs]
    · have hcons : escapeQuotes (c :: s) = c :: escapeQuotes s := by simp [escapeQuotes, hc]
      rw [hcons, List.cons_append, quotedLength, hs]
      · rfl
      · exact hc
      · exact fun hbackslash => h.1 hbackslash.symm

/-- Unescaping gives the text back. -/
theorem replaceAll_escapeQuotes {s : List Char} (h : '\\' ∉ s) :
    replaceAll ['\\', '"'] ['"'] (escapeQuotes s) = s := by
  induction s with
  | nil => rfl
  | cons c s ih =>
    simp only [List.mem_cons, not_or] at h
    have hs := ih h.2
    by_cases hc : c = '"'
    · subst hc
      -- The rule matches where a quote was escaped.
      have hescape : replaceRule ['\\', '"'] ['"'] (['\\', '"'] ++ escapeQuotes s) =
          some (['"'], ['\\', '"'].length) := by
        simp [replaceRule]
      have hreplace := substitute_of_match (List.cons_ne_nil _ _) hescape
      show substitute _ (['\\', '"'] ++ escapeQuotes s) = _
      rw [hreplace]
      exact congrArg ('"' :: ·) hs
    -- It matches nowhere else, since the text has no backslash.
    · have hcopy : ∀ d ∈ [c], ∀ rest, replaceRule ['\\', '"'] ['"'] (d :: rest) = none := by
        intro d hd rest
        rw [List.mem_singleton.1 hd]
        simp [replaceRule, h.1]
      have hcons : escapeQuotes (c :: s) = [c] ++ escapeQuotes s := by simp [escapeQuotes, hc]
      rw [hcons, replaceAll, substitute_append hcopy]
      exact congrArg (c :: ·) hs

theorem trimBoth_quotedToken (s : List Char) : trimBoth (quotedToken s) = quotedToken s := by
  have hquote : isBlank '"' = false := by decide
  have hnone : ∀ c ∈ ([] : List Char), isBlank c = true := nofun
  have hend := trimRight_append_cons hquote hnone ('"' :: escapeQuotes s)
  rw [quotedToken, trimBoth, trimLeft_cons hquote]
  exact hend

theorem classify_quotedToken {s : List Char} (h : '\\' ∉ s) :
    classify (quotedToken s) = .text (String.ofList s) := by
  have hcontent : unquoted? (quotedToken s) = some (escapeQuotes s) := by
    simp [unquoted?, quotedToken]
  simp only [classify, hcontent, replaceAll_escapeQuotes h]

/-- A text in quotes is taken for the text, whatever stands behind it. -/
theorem readAs_quotedToken {s : List Char} (h : '\\' ∉ s) :
    ReadAs (quotedToken s) (.text (String.ofList s)) := by
  intro after rest hafter _
  -- The token ends at its closing quote, so what stands behind it does not matter.
  have hlength : tokenLength (quotedToken s ++ (after ++ rest)) = (quotedToken s).length := by
    have hquoted := quotedLength_escapeQuotes h (after ++ rest)
    simp [quotedToken, tokenLength, isBlank, hquoted]
  have htokens := tokens_append (show quotedToken s ≠ [] from List.cons_ne_nil _ _) hlength
  rw [readManual, htokens, tokens_append_of_blank hafter, List.map_cons, trimBoth_quotedToken,
    classify_quotedToken h, readManual]

/-! ## Plain tokens -/

/-- A token that does not begin with a quote is taken up to the comma. -/
theorem tokenLength_plain {c : Char} {text rest : List Char} (hquote : c ≠ '"')
    (hblank : isBlank c = false) (hcomma : ',' ∉ c :: text) (hrest : EndsPiece rest) :
    tokenLength (c :: text ++ rest) = (c :: text).length := by
  simp only [List.mem_cons, not_or] at hcomma
  -- The token goes up to the comma, or to the end.
  have htake : (text ++ rest).takeWhile (· != ',') = text := by
    have htext : ∀ d ∈ text, (d != ',') = true := by
      intro d hd
      simp only [bne_iff_ne]
      rintro rfl
      exact hcomma.2 hd
    rw [List.takeWhile_append_of_pos htext]
    cases rest with
    | nil => exact List.append_nil text
    | cons d rest =>
      obtain rfl : d = ',' := hrest d rfl
      exact List.append_nil text
  have hstarts : ¬ (c = ',' ∨ isBlank c = true) := by
    rintro (rfl | h)
    · exact hcomma.1 rfl
    · rw [hblank] at h
      cases h
  rw [List.cons_append, tokenLength, htake]
  simp [hstarts, hquote, Nat.add_comm]

/-- A piece that does not begin with a quote is classified as it stands. -/
theorem readAs_plain {c : Char} {text : List Char} (hquote : c ≠ '"') (hblank : isBlank c = false)
    (hcomma : ',' ∉ c :: text) : ReadAs (c :: text) (classify (trimBoth (c :: text))) := by
  intro after rest hafter hrest
  have hwhole : ',' ∉ c :: (text ++ after) := by
    intro hmem
    rcases List.mem_append.1 (List.cons_append ▸ hmem) with htext | hspace
    · exact hcomma htext
    · exact absurd (hafter ',' hspace) (by decide)
  -- The blanks up to the comma belong to the token and are trimmed away.
  have hlength := tokenLength_plain hquote hblank hwhole hrest
  have htokens := tokens_append (List.cons_ne_nil c (text ++ after)) hlength
  have htrim := trimBoth_append_of_blank hafter (c :: text)
  rw [List.cons_append] at htrim
  rw [← List.append_assoc, List.cons_append, readManual, htokens, List.map_cons, htrim, readManual]

theorem unquoted?_eq_none {c : Char} (h : c ≠ '"') (text : List Char) :
    unquoted? (c :: text) = none := by
  unfold unquoted?
  split
  · next heq => exact absurd (List.cons.inj heq).1 h
  · rfl

/-! ## Digits -/

theorem isBlank_eq_false_of_isDigit {c : Char} (h : c.isDigit = true) : isBlank c = false := by
  simp only [Char.isDigit, Bool.and_eq_true, decide_eq_true_eq, UInt32.le_iff_toNat_le] at h
  have hlow : 48 ≤ c.toNat := h.1
  have hhigh : c.toNat ≤ 57 := h.2
  simp only [isBlank, Bool.or_eq_false_iff, Bool.and_eq_false_iff, decide_eq_false_iff_not,
    beq_eq_false_iff_ne]
  omega

/-- Digits are taken for the number that they denote. -/
theorem readAs_digits {digits : List Char} (hne : digits ≠ [])
    (h : ∀ c ∈ digits, c.isDigit = true) :
    ReadAs digits
      (.number (Number.ofDecimal Number.binary64 false (Number.ofDigits digits) 0)) := by
  have hforeign : ∀ c, c.isDigit = false → c ∉ digits := by
    intro c hc hmem
    rw [h c hmem] at hc
    cases hc
  obtain ⟨c, others, rfl⟩ := List.exists_cons_of_ne_nil hne
  have hquote : c ≠ '"' := by
    rintro rfl
    exact hforeign '"' (by decide) List.mem_cons_self
  have hplain := readAs_plain hquote (isBlank_eq_false_of_isDigit (h c List.mem_cons_self))
    (hforeign ',' (by decide))
  have hcontent := unquoted?_eq_none hquote others
  have hclassify : classify (c :: others) =
      .number (Number.ofDecimal Number.binary64 false (Number.ofDigits (c :: others)) 0) := by
    have hall : (c :: others).all Char.isDigit = true := List.all_eq_true.2 h
    simp only [classify, hcontent, hall]
    rfl
  have htrim := trimBoth_of_not_blank fun d hd => isBlank_eq_false_of_isDigit (h d hd)
  rwa [htrim, hclassify] at hplain

theorem ofDecimal_of_le {n : Nat} (h : n ≤ Number.maxU64) :
    Number.ofDecimal Number.binary64 false n 0 = .ofNat Number.binary64 n := by
  -- A number of at most 20 digits is far from the bounds of the format.
  have hcount : Number.digitCount n ≤ 20 :=
    (Nat.length_toDigits_le_iff (by decide) (by decide)).2 (Nat.lt_of_le_of_lt h (by decide))
  by_cases hzero : n = 0
  · subst hzero
    rw [Number.Binary.ofNat_zero]
    rfl
  · have hlow : ¬ ((Number.digitCount n : Int) < -400) := by omega
    have hhigh : ¬ (400 < (Number.digitCount n : Int)) := by omega
    simp [Number.ofDecimal, Number.Binary.ofNat, hzero, hlow, hhigh]

/-- The digits of a whole number are taken for the number. -/
theorem readAs_toDigits {n : Nat} (h : n ≤ Number.maxU64) :
    ReadAs (Nat.toDigits 10 n) (.number (.ofNat Number.binary64 n)) := by
  have hdigits : ∀ c ∈ Nat.toDigits 10 n, c.isDigit = true := fun c hc =>
    Nat.isDigit_of_mem_toDigits (by decide) (by decide) hc
  have hvalue : Number.ofDigits (Nat.toDigits 10 n) = n := Nat.ofDigitChars_ten_toDigits
  have hread := readAs_digits Nat.toDigits_ne_nil hdigits
  rwa [hvalue, ofDecimal_of_le h] at hread

end Deskhand.Command
