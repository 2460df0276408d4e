/-
  Deskhand.Proofs.Command.Kinds

  The four kinds of tokens.

  An argument for the manual strategy is written as a text in quotes, as the digits of a whole
  number, as a pattern between slashes, or as a token that stands for itself. No text can be taken
  for two of these, so a list of arguments of any kinds is read back, with any blanks around the
  commas. What separates the kinds is the order in which they are tried: a quote at the front,
  digits throughout, the form of a pattern, and only then the token as it is.
-/

import Deskhand.Proofs.Command.Tokens

namespace Deskhand.Command

open Deskhand.Text

/-! ## Patterns -/

/-- The form of a pattern: a source on one line that is not empty, between slashes, and behind them
the flags. The source may hold slashes, the flags do not. -/
structure IsPattern (s source flags : List Char) : Prop where
  form : s = '/' :: (source ++ '/' :: flags)
  nonempty : source ≠ []
  oneLine : '\n' ∉ source
  flagged : ∀ c ∈ flags, c ∈ "gimsuy".toList

/-- A pattern is cut at its last slash. -/
theorem pattern?_append {flags : List Char} (h : '/' ∉ flags) (source : List Char) :
    pattern? ('/' :: (source ++ '/' :: flags)) =
      if !source.isEmpty && !source.contains '\n' && flags.all isPatternFlag then
        some (source, flags)
      else none := by
  -- Read from behind, the flags are what comes before the first slash.
  have hflags : ((source ++ '/' :: flags).reverse.takeWhile (· != '/')).reverse = flags := by
    have hnone : ∀ c ∈ flags.reverse, (c != '/') = true := by
      intro c hc
      have hne : c ≠ '/' := fun heq => h (heq ▸ List.mem_reverse.1 hc)
      simpa using hne
    rw [List.reverse_append, List.reverse_cons, List.append_assoc,
      List.takeWhile_append_of_pos hnone]
    simp
  have hlength : (source ++ '/' :: flags).length - flags.length = (source ++ ['/']).length := by
    simp only [List.length_append, List.length_cons, List.length_nil]
    omega
  have hsource : (source ++ '/' :: flags).take (source ++ ['/']).length = source ++ ['/'] := by
    rw [show source ++ '/' :: flags = source ++ ['/'] ++ flags by simp, List.take_left]
  simp only [pattern?, hflags, hlength, hsource, List.dropLast_concat]
  simp

/-- The reader of patterns accepts just the texts in the form of a pattern. -/
theorem pattern?_eq_some_iff {s source flags : List Char} :
    pattern? s = some (source, flags) ↔ IsPattern s source flags := by
  constructor
  · intro h
    obtain ⟨rest, rfl, hslash⟩ : ∃ rest, s = '/' :: rest ∧ '/' ∈ rest := by
      unfold pattern? at h
      split at h
      · next rest => exact ⟨rest, rfl, by simp_all⟩
      · cases h
    -- The last slash is the first one from behind.
    obtain ⟨back, front, hreverse, hback⟩ :=
      List.eq_append_cons_of_mem (List.mem_reverse.2 hslash)
    obtain rfl : rest = front.reverse ++ '/' :: back.reverse := by
      rw [← List.reverse_reverse rest, hreverse]
      simp
    rw [pattern?_append (by simpa using hback)] at h
    split at h
    · next hform =>
      simp only [Option.some.injEq, Prod.mk.injEq] at h
      obtain ⟨rfl, rfl⟩ := h
      simp only [Bool.and_eq_true, Bool.not_eq_true', List.isEmpty_eq_false_iff,
        List.contains_eq_mem, decide_eq_false_iff_not, List.all_eq_true] at hform
      exact ⟨rfl, hform.1.1, hform.1.2, fun c hc => by simpa [isPatternFlag] using hform.2 c hc⟩
    · cases h
  · rintro ⟨rfl, nonempty, oneLine, flagged⟩
    have hslash : '/' ∉ flags := fun hmem => absurd (flagged '/' hmem) (by decide)
    have hflags : flags.all isPatternFlag = true :=
      List.all_eq_true.2 fun c hc => by simpa [isPatternFlag] using flagged c hc
    rw [pattern?_append hslash]
    simp [nonempty, oneLine, hflags]

/-! ## Rendered arguments -/

/-- An argument of one of the four kinds, with what its kind asks of it. -/
inductive Rendered where
  | text (content : List Char) (noBackslash : '\\' ∉ content)
  | integer (n : Nat) (fits : n ≤ Number.maxU64)
  | pattern (source flags : List Char) (nonempty : source ≠ []) (noComma : ',' ∉ source)
      (oneLine : '\n' ∉ source) (flagged : ∀ c ∈ flags, c ∈ "gimsuy".toList)
  | token (chars : List Char) (nonempty : chars ≠ []) (noComma : ',' ∉ chars)
      (noBlankFirst : ∀ c ∈ chars.head?, isBlank c = false)
      (noBlankLast : ∀ c ∈ chars.getLast?, isBlank c = false)
      (noQuote : chars.head? ≠ some '"') (notDigits : ¬ ∀ c ∈ chars, c.isDigit = true)
      (noPattern : ∀ source flags, ¬ IsPattern chars source flags)

/-- The argument as it is written. -/
def Rendered.chars : Rendered → List Char
  | .text content _ => quotedToken content
  | .integer n _ => Nat.toDigits 10 n
  | .pattern source flags .. => '/' :: (source ++ '/' :: flags)
  | .token chars .. => chars

/-- The argument that is meant. -/
def Rendered.argument : Rendered → Argument
  | .text content _ => .text (String.ofList content)
  | .integer n _ => .number (.ofNat Number.binary64 n)
  | .pattern source flags .. => .pattern (String.ofList source) (String.ofList flags)
  | .token chars .. => .token (String.ofList chars)

/-- What neither begins with a quote nor is all digits is a pattern or stands for itself. -/
theorem classify_of_plain {c : Char} {text : List Char} (hquote : c ≠ '"')
    (hdigits : ¬ ∀ d ∈ c :: text, d.isDigit = true) :
    classify (c :: text) =
      match pattern? (c :: text) with
      | some (source, flags) => .pattern (String.ofList source) (String.ofList flags)
      | none => .token (String.ofList (c :: text)) := by
  have hcontent := unquoted?_eq_none hquote text
  have hall : (c :: text).all Char.isDigit = false := by
    rw [Bool.eq_false_iff]
    exact fun h => hdigits (List.all_eq_true.1 h)
  simp only [classify, hcontent, hall, Bool.and_false]
  rfl

theorem readAs_pattern {source flags : List Char} (hnonempty : source ≠ []) (hcomma : ',' ∉ source)
    (hline : '\n' ∉ source) (hflags : ∀ c ∈ flags, c ∈ "gimsuy".toList) :
    ReadAs ('/' :: (source ++ '/' :: flags))
      (.pattern (String.ofList source) (String.ofList flags)) := by
  have hplain : ∀ c ∈ "gimsuy".toList, c ≠ ',' ∧ isBlank c = false := by simp [isBlank]
  have hnoComma : ',' ∉ '/' :: (source ++ '/' :: flags) := by
    have hbehind : ',' ∉ flags := fun hmem => (hplain ',' (hflags ',' hmem)).1 rfl
    simp [hcomma, hbehind]
  have hlast : ∀ c ∈ ('/' :: (source ++ '/' :: flags)).getLast?, isBlank c = false := by
    intro c hc
    -- A pattern ends with a flag or with its second slash.
    have hback : c ∈ ('/' :: flags).getLast? := by
      rw [← List.cons_append, List.getLast?_append] at hc
      exact hc
    rcases List.mem_cons.1 (List.mem_of_getLast? hback) with rfl | hmem
    · decide
    · exact (hplain c (hflags c hmem)).2
  have hfirst : ∀ c ∈ ('/' :: (source ++ '/' :: flags)).head?, isBlank c = false := by
    rintro c ⟨⟩
    decide
  have hclassify : classify ('/' :: (source ++ '/' :: flags)) =
      .pattern (String.ofList source) (String.ofList flags) := by
    -- The slash in front is no digit.
    have hdigits : ¬ ∀ c ∈ '/' :: (source ++ '/' :: flags), c.isDigit = true := fun hall =>
      absurd (hall '/' List.mem_cons_self) (by decide)
    rw [classify_of_plain (by decide) hdigits,
      pattern?_eq_some_iff.2 ⟨rfl, hnonempty, hline, hflags⟩]
  have hread := readAs_plain (show '/' ≠ '"' by decide) (by decide) hnoComma
  rwa [trimBoth_of_ends hfirst hlast, hclassify] at hread

theorem readAs_token {chars : List Char} (hnonempty : chars ≠ []) (hcomma : ',' ∉ chars)
    (hfirst : ∀ c ∈ chars.head?, isBlank c = false)
    (hlast : ∀ c ∈ chars.getLast?, isBlank c = false) (hquote : chars.head? ≠ some '"')
    (hdigits : ¬ ∀ c ∈ chars, c.isDigit = true)
    (hpattern : ∀ source flags, ¬ IsPattern chars source flags) :
    ReadAs chars (.token (String.ofList chars)) := by
  obtain ⟨c, text, rfl⟩ := List.exists_cons_of_ne_nil hnonempty
  have hstart : c ≠ '"' := fun heq => hquote (congrArg some heq)
  have hnone : pattern? (c :: text) = none := by
    rw [Option.eq_none_iff_forall_ne_some]
    rintro ⟨source, flags⟩ hsome
    exact hpattern source flags (pattern?_eq_some_iff.1 hsome)
  have hclassify : classify (c :: text) = .token (String.ofList (c :: text)) := by
    rw [classify_of_plain hstart hdigits, hnone]
  have hread := readAs_plain hstart (hfirst c rfl) hcomma
  rwa [trimBoth_of_ends hfirst hlast, hclassify] at hread

theorem Rendered.readAs (rendered : Rendered) : ReadAs rendered.chars rendered.argument := by
  cases rendered with
  | text content noBackslash => exact readAs_quotedToken noBackslash
  | integer n fits => exact readAs_toDigits fits
  | pattern source flags nonempty noComma oneLine flagged =>
    exact readAs_pattern nonempty noComma oneLine flagged
  | token chars nonempty noComma noBlankFirst noBlankLast noQuote notDigits noPattern =>
    exact readAs_token nonempty noComma noBlankFirst noBlankLast noQuote notDigits noPattern

/-! ## Lists of arguments -/

/-- A rendered argument with blanks around it. -/
structure RenderedOperand where
  before : List Char
  rendered : Rendered
  after : List Char
  blankBefore : ∀ c ∈ before, isBlank c = true
  blankAfter : ∀ c ∈ after, isBlank c = true

/-- The argument as it stands between two commas. -/
def RenderedOperand.chars (operand : RenderedOperand) : List Char :=
  operand.before ++ (operand.rendered.chars ++ operand.after)

/-- Rendered arguments with commas between them. -/
def renderedText (operands : List RenderedOperand) : List Char :=
  List.intercalate [','] (operands.map RenderedOperand.chars)

def RenderedOperand.piece (operand : RenderedOperand) : Piece :=
  ⟨operand.before, operand.rendered.chars, operand.after, operand.rendered.argument,
    operand.blankBefore, operand.blankAfter, operand.rendered.readAs⟩

/-- **Arguments of all kinds are read back.** The manual strategy gives the arguments that are
meant, in their order, whatever kinds they are of and whatever blanks stand around them. -/
theorem apply_manual_renderedText (operands : List RenderedOperand) :
    Strategy.manual.apply (renderedText operands) =
      .ok (operands.map fun operand => operand.rendered.argument) := by
  have hread := readManual_joined (operands.map RenderedOperand.piece)
  rw [joined, List.map_map, List.map_map] at hread
  exact congrArg Except.ok hread

/-- One argument of each kind: quotes in the text, a slash in the pattern, and a token that would be
a pattern if it had another flag. -/
def eachKind : List RenderedOperand :=
  [⟨['\t'], .text "say \"x, y\"".toList (by decide), ['\u3000'], by simp [isBlank],
      by simp [isBlank]⟩,
    ⟨['\u3000'], .integer 7 (by decide), ['\t'], by simp [isBlank], by simp [isBlank]⟩,
    ⟨['\t'], .pattern "a/ (\"b\")".toList "gi".toList (by decide) (by decide) (by decide)
      (by simp), ['\u3000'], by simp [isBlank], by simp [isBlank]⟩,
    ⟨['\u3000'], .token "/a/gx".toList (by decide) (by decide) (by simp [isBlank])
      (by simp [isBlank]) (by decide) (by simp) (fun _ _ h => nomatch pattern?_eq_some_iff.2 h),
      ['\t'], by simp [isBlank], by simp [isBlank]⟩]

/-- Each is read as what it is. -/
theorem apply_manual_renderedText_eachKind :
    Strategy.manual.apply
        "\t\"say \\\"x, y\\\"\"\u3000,\u30007\t,\t/a/ (\"b\")/gi\u3000,\u3000/a/gx\t".toList =
      .ok [.text "say \"x, y\"", .number (.ofNat Number.binary64 7),
        .pattern "a/ (\"b\")" "gi", .token "/a/gx"] :=
  apply_manual_renderedText eachKind

end Deskhand.Command
