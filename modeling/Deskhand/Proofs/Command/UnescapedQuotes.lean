/-
  Deskhand.Proofs.Command.UnescapedQuotes

  Strings whose quotes are not escaped.

  Language models write strings between quotes and forget to escape those inside. As long as no
  quote inside a string looks like the end of one, the strings are read as they were meant. Strings
  without quotes are read by the strict strategy. With a quote in one of them the strict strategy
  ends the string there and finds neither a comma nor a bracket behind it; the sanitized one then
  escapes exactly the quotes inside, which turns every string into its literal.
-/

import Deskhand.Proofs.Command.InnerQuotes

namespace Deskhand.Command

open Deskhand.Text Deskhand.Json

/-- The characters in front of which a string ends. -/
def isTerminator (c : Char) : Bool := c == ',' || c == ']' || c == '\x7d' || c == ')'

/-- Whether a quote of the text is followed, blanks aside, by a character in front of which a string
ends. -/
def HoldsClosingQuote (s : List Char) : Prop :=
  ∃ before rest, s = before ++ '"' :: rest ∧ (trimLeft rest).head?.any isTerminator = true

theorem holdsClosingQuote_cons {c : Char} {s : List Char} :
    HoldsClosingQuote (c :: s) ↔
      c = '"' ∧ (trimLeft s).head?.any isTerminator = true ∨ HoldsClosingQuote s := by
  constructor
  · rintro ⟨before, rest, hsplit, hends⟩
    cases before with
    | nil =>
      obtain ⟨rfl, rfl⟩ := List.cons.inj hsplit
      exact .inl ⟨rfl, hends⟩
    | cons d before =>
      obtain ⟨-, rfl⟩ := List.cons.inj hsplit
      exact .inr ⟨before, rest, rfl, hends⟩
  · rintro (⟨rfl, hends⟩ | ⟨before, rest, rfl, hends⟩)
    · exact ⟨[], s, rfl, hends⟩
    · exact ⟨c :: before, rest, rfl, hends⟩

instance decidableHoldsClosingQuote : DecidablePred HoldsClosingQuote
  | [] => .isFalse (by rintro ⟨before, rest, hsplit, -⟩; simp at hsplit)
  | _ :: s =>
    have := decidableHoldsClosingQuote s
    decidable_of_iff _ holdsClosingQuote_cons.symm

/-- A text that is written between quotes as it is: it has no control characters and no backslashes,
none of its quotes looks like the end of a string, and none of its commas like a trailing one. -/
structure Verbatim where
  text : List Char
  visible : ∀ c ∈ text, 0x20 ≤ c.toNat
  noBackslash : '\\' ∉ text
  noClosingQuote : ¬ HoldsClosingQuote text
  noTrailingComma : ¬ HoldsTrailingComma text

/-- The text between quotes. -/
def Verbatim.quoted (verbatim : Verbatim) : List Char := '"' :: (verbatim.text ++ ['"'])

/-- Texts between quotes, joined by commas and spaces. -/
def verbatimText (verbatims : List Verbatim) : List Char :=
  List.intercalate [',', ' '] (verbatims.map Verbatim.quoted)

theorem verbatimText_cons (first : Verbatim) (others : List Verbatim) :
    verbatimText (first :: others) =
      first.quoted ++ others.flatMap fun verbatim => ',' :: ' ' :: verbatim.quoted := by
  rw [verbatimText, List.map_cons, intercalate_cons, List.flatMap_map]
  rfl

/-! ## The commas stay -/

theorem closesNext_append_quote (s rest : List Char) :
    closesNext (s ++ '"' :: rest) = closesNext s := by
  have htrim : trimLeft (s ++ '"' :: rest) = trimLeft s ++ '"' :: rest :=
    dropWhile_append_cons (by decide) s rest
  rw [closesNext, closesNext, htrim]
  cases trimLeft s <;> rfl

/-- In front of a quote the repair leaves a text without trailing commas as it is. -/
theorem dropTrailingCommas_append_quote {s : List Char} (h : ¬ HoldsTrailingComma s)
    (rest : List Char) :
    dropTrailingCommas (s ++ '"' :: rest) = s ++ '"' :: dropTrailingCommas rest := by
  induction s with
  | nil => exact dropTrailingCommas_cons (by decide) rest
  | cons c s ih =>
    -- A comma of the text is no trailing one, whatever stands behind the quote.
    have hhere : ¬ (c = ',' ∧ closesNext (s ++ '"' :: rest) = true) := by
      rw [closesNext_append_quote]
      rintro ⟨rfl, hcloses⟩
      exact h ⟨[], s, rfl, hcloses⟩
    rw [List.cons_append, dropTrailingCommas_cons_of_not hhere, ih fun hs => h (hs.cons c),
      List.cons_append]

theorem Verbatim.dropTrailingCommas_quoted (verbatim : Verbatim) (rest : List Char) :
    dropTrailingCommas (verbatim.quoted ++ rest) = verbatim.quoted ++ dropTrailingCommas rest := by
  have htext := dropTrailingCommas_append_quote verbatim.noTrailingComma rest
  rw [quoted, List.cons_append, List.append_assoc, List.singleton_append,
    dropTrailingCommas_cons (by decide), htext]
  simp

theorem dropTrailingCommas_verbatimText (first : Verbatim) (others : List Verbatim) :
    dropTrailingCommas (bracketed (verbatimText (first :: others))) =
      bracketed (verbatimText (first :: others)) := by
  -- Between two texts a comma has a space and a quote behind it.
  have hothers := dropTrailingCommas_commas
    (fun verbatim (_ : verbatim ∈ others) rest =>
      (rfl : closesNext (' ' :: verbatim.quoted ++ rest) = false))
    (fun verbatim _ rest => by
      rw [List.cons_append, dropTrailingCommas_cons (by decide), verbatim.dropTrailingCommas_quoted,
        ← List.cons_append])
    [']']
  have hbracket : bracketed (verbatimText (first :: others)) = '[' :: (first.quoted ++
      ((others.flatMap fun verbatim => ',' :: ' ' :: verbatim.quoted) ++ [']'])) := by
    simp [bracketed, verbatimText_cons]
  rw [hbracket, dropTrailingCommas_cons (by decide), first.dropTrailingCommas_quoted, hothers]
  rfl

/-! ## The quotes inside are escaped -/

/-- In front of the end of its string a quote ends it exactly when it looks like it. -/
theorem endsString_append_quote (s rest : List Char) :
    endsString (s ++ '"' :: rest) = (trimLeft s).head?.any isTerminator := by
  have htrim : trimLeft (s ++ '"' :: rest) = trimLeft s ++ '"' :: rest :=
    dropWhile_append_cons (by decide) s rest
  rw [endsString, htrim]
  cases trimLeft s <;> rfl

/-- Inside a string the pass writes each character as a literal has it. -/
theorem escapeInnerFrom_verbatim {s : List Char} (hvisible : ∀ c ∈ s, 0x20 ≤ c.toNat)
    (hbackslash : '\\' ∉ s) (hquotes : ¬ HoldsClosingQuote s) {rest : List Char}
    (hrest : endsString rest = true) :
    escapeInnerFrom true (s ++ '"' :: rest) =
      s.flatMap escapeChar ++ '"' :: escapeInnerFrom false rest := by
  induction s with
  | nil => exact escapeInnerFrom_close hrest
  | cons c s ih =>
    have hs := ih (fun d hd => hvisible d (List.mem_cons_of_mem c hd))
      (fun hmem => hbackslash (List.mem_cons_of_mem c hmem))
      (fun ⟨before, behind, hsplit, hends⟩ =>
        hquotes ⟨c :: before, behind, congrArg (c :: ·) hsplit, hends⟩)
    by_cases hc : c = '"'
    · subst hc
      -- A quote of the text that could end the string is ruled out.
      have hinner : endsString (s ++ '"' :: rest) = false := by
        rw [endsString_append_quote]
        cases hends : (trimLeft s).head?.any isTerminator with
        | false => rfl
        | true => exact absurd ⟨[], s, rfl, hends⟩ hquotes
      rw [List.cons_append, escapeInnerFrom_inner hinner, hs]
      rfl
    · have hne : c ≠ '\\' := fun heq => hbackslash (heq ▸ List.mem_cons_self)
      have hplain := escapeChar_of_visible hc hne (hvisible c List.mem_cons_self)
      rw [List.cons_append, escapeInnerFrom_plain hc hne, hs, List.flatMap_cons, hplain]
      rfl

theorem Verbatim.escapeInnerFrom_quoted (verbatim : Verbatim) {rest : List Char}
    (hrest : endsString rest = true) :
    escapeInnerFrom false (verbatim.quoted ++ rest) =
      literal verbatim.text ++ escapeInnerFrom false rest := by
  have htext := escapeInnerFrom_verbatim verbatim.visible verbatim.noBackslash
    verbatim.noClosingQuote hrest
  rw [quoted, List.cons_append, List.append_assoc, List.singleton_append, escapeInnerFrom_open,
    htext]
  simp [literal]

theorem endsString_verbatims (verbatims : List Verbatim) :
    endsString ((verbatims.flatMap fun verbatim => ',' :: ' ' :: verbatim.quoted) ++ [']']) =
      true := by
  cases verbatims <;> rfl

theorem escapeInnerFrom_verbatims (verbatims : List Verbatim) :
    escapeInnerFrom false
        ((verbatims.flatMap fun verbatim => ',' :: ' ' :: verbatim.quoted) ++ [']']) =
      (verbatims.flatMap fun verbatim => ',' :: ' ' :: literal verbatim.text) ++ [']'] := by
  induction verbatims with
  | nil => rfl
  | cons verbatim verbatims ih =>
    have hquoted := verbatim.escapeInnerFrom_quoted (endsString_verbatims verbatims)
    have hcomma : ∀ s, escapeInnerFrom false (',' :: ' ' :: s) =
        ',' :: ' ' :: escapeInnerFrom false s := fun _ => rfl
    rw [List.flatMap_cons, List.append_assoc, List.cons_append, List.cons_append, hcomma, hquoted,
      ih]
    simp

/-! ## Reading the literals -/

/-- A literal behind spaces. -/
def Verbatim.item (before : List Char) (verbatim : Verbatim) : Spelled :=
  ⟨before, literal verbatim.text, [], .string (String.ofList verbatim.text)⟩

theorem parseChars_literals (first : Verbatim) (others : List Verbatim) :
    parseChars ('[' :: (literal first.text ++
        ((others.flatMap fun verbatim => ',' :: ' ' :: literal verbatim.text) ++ [']']))) =
      .ok (.array
        ((first :: others).map fun verbatim => .string (String.ofList verbatim.text))) := by
  have hspace : Blank [' '] := by decide
  -- Each literal is read by itself, the first one without a space in front of it.
  have hreads : ∀ item ∈ first.item [] :: others.map (Verbatim.item [' ']),
      item.Reads (2 * item.text.length) (maxDepth - 1) := by
    have hitem : ∀ before, Blank before → ∀ verbatim : Verbatim,
        (verbatim.item before).Reads (2 * (literal verbatim.text).length) (maxDepth - 1) := by
      intro before hbefore verbatim
      have hlength : 0 < (literal verbatim.text).length := by simp [literal]
      exact (reads_literal hbefore blank_nil verbatim.text _).mono (by omega)
    intro item hmem
    rcases List.mem_cons.1 hmem with rfl | hmem
    · exact hitem [] blank_nil first
    · obtain ⟨verbatim, -, rfl⟩ := List.mem_map.1 hmem
      exact hitem [' '] hspace verbatim
  have hparse := parseChars_array hreads
  simpa [arrayText, closing, Verbatim.item, Spelled.chars, List.flatMap_map, Function.comp_def]
    using hparse

/-! ## Where the strict strategy stops -/

theorem Verbatim.quoted_eq_literal {verbatim : Verbatim} (h : '"' ∉ verbatim.text) :
    verbatim.quoted = literal verbatim.text := by
  rw [quoted, literal, flatMap_escapeChar_of_visible h verbatim.noBackslash verbatim.visible,
    List.cons_append]

/-- Behind a quote that does not look like the end of a string there is neither a comma nor a
bracket. -/
theorem exists_error_behind_quote {s : List Char} (h : (trimLeft s).head?.any isTerminator = false)
    (rest : List Char) (n depth : Nat) :
    ∃ fault, readItems n depth false (s ++ '"' :: rest) = .error fault := by
  obtain ⟨c, more, hskip, hcomma, hbracket⟩ :
      ∃ c more, skipSpace (s ++ '"' :: rest) = c :: more ∧ c ≠ ',' ∧ c ≠ ']' := by
    induction s with
    | nil => exact ⟨'"', rest, skipSpace_cons (by decide) rest, by decide, by decide⟩
    | cons d s ih =>
      cases hspace : isSpace d with
      | true =>
        have htrim : trimLeft (d :: s) = trimLeft s :=
          List.dropWhile_cons_of_pos (isBlank_of_isSpace hspace)
        rw [htrim] at h
        have hskip : skipSpace (d :: s ++ '"' :: rest) = skipSpace (s ++ '"' :: rest) :=
          List.dropWhile_cons_of_pos hspace
        rw [hskip]
        exact ih h
      | false =>
        -- Only JSON spaces are skipped, so another blank is in the way as much as a letter is.
        have hne : d ≠ ',' ∧ d ≠ ']' := by
          constructor
          · rintro rfl
            cases h
          · rintro rfl
            cases h
        exact ⟨d, s ++ '"' :: rest, skipSpace_cons hspace _, hne.1, hne.2⟩
  cases n with
  | zero => exact ⟨_, rfl⟩
  | succ n => simp [readItems, hskip, hcomma, faultAt]

/-- A text with a quote in it is refused behind a comma: its string ends at the first quote. -/
theorem Verbatim.exists_error_quoted {verbatim : Verbatim} (h : '"' ∈ verbatim.text) (n depth : Nat)
    (behind : List Char) :
    ∃ fault, readItems (n + 2) depth false (',' :: ' ' :: (verbatim.quoted ++ behind)) =
      .error fault := by
  obtain ⟨front, rest, hsplit, hfront⟩ := List.eq_append_cons_of_mem h
  have hmem : ∀ c ∈ front, c ∈ verbatim.text := by
    intro c hc
    rw [hsplit]
    exact List.mem_append_left _ hc
  -- Up to its first quote the text is written as in a literal.
  have hcontent : Content front front := by
    have hliteral := content_literal front
    rwa [flatMap_escapeChar_of_visible hfront
      (fun hbackslash => verbatim.noBackslash (hmem _ hbackslash))
      (fun c hc => verbatim.visible c (hmem c hc))] at hliteral
  -- Behind that quote no string may end.
  have hopen : (trimLeft rest).head?.any isTerminator = false := by
    cases hends : (trimLeft rest).head?.any isTerminator with
    | false => rfl
    | true => exact absurd ⟨front, rest, hsplit, hends⟩ verbatim.noClosingQuote
  obtain ⟨fault, hfault⟩ := exists_error_behind_quote hopen behind (n + 1) depth
  have hskip : skipSpace (' ' :: (verbatim.quoted ++ behind)) =
      '"' :: (front ++ '"' :: (rest ++ '"' :: behind)) := by
    simp [quoted, hsplit, skipSpace, isSpace]
  have hread := hcontent.readValue n depth (rest ++ '"' :: behind)
  have hcomma := readItems_comma hskip (by decide) hread
  rw [hfault] at hcomma
  exact ⟨fault, hcomma⟩

/-- The first text with a quote in it is refused, wherever it stands among the others. -/
theorem exists_error_verbatims {verbatims : List Verbatim}
    (h : ∃ verbatim ∈ verbatims, '"' ∈ verbatim.text) {n : Nat} (hn : verbatims.length + 1 < n)
    (depth : Nat) (tail : List Char) :
    ∃ fault, readItems n depth false
        ((verbatims.flatMap fun verbatim => ',' :: ' ' :: verbatim.quoted) ++ tail) =
      .error fault := by
  induction verbatims generalizing n with
  | nil =>
    obtain ⟨verbatim, hmem, -⟩ := h
    cases hmem
  | cons verbatim verbatims ih =>
    rw [List.length_cons] at hn
    obtain ⟨m, rfl⟩ : ∃ m, n = m + 2 := ⟨n - 2, by omega⟩
    rw [List.flatMap_cons, List.append_assoc, List.cons_append, List.cons_append]
    by_cases hquote : '"' ∈ verbatim.text
    · exact Verbatim.exists_error_quoted hquote m depth _
    · -- This one is a literal, and the quote is in one behind it.
      have hlater : ∃ other ∈ verbatims, '"' ∈ other.text := by
        obtain ⟨other, hother, hmem⟩ := h
        rcases List.mem_cons.1 hother with rfl | hother
        · exact absurd hmem hquote
        · exact ⟨other, hother, hmem⟩
      obtain ⟨fault, hfault⟩ := ih (n := m + 1) hlater (by omega)
      generalize (verbatims.flatMap fun verbatim => ',' :: ' ' :: verbatim.quoted) ++ tail = behind
        at hfault ⊢
      have hskip : skipSpace (' ' :: (verbatim.quoted ++ behind)) =
          literal verbatim.text ++ behind := by
        rw [Verbatim.quoted_eq_literal hquote]
        simp [literal, skipSpace, isSpace]
      have hread := readValue_literal m depth verbatim.text behind
      have hcomma := readItems_comma hskip (by decide) hread
      rw [hfault] at hcomma
      exact ⟨fault, hcomma⟩

/-- Texts between quotes are no array when there is a quote in one of them. -/
theorem exists_error_bracketed {first : Verbatim} {others : List Verbatim}
    (h : ∃ verbatim ∈ first :: others, '"' ∈ verbatim.text) :
    ∃ e, parseChars (bracketed (verbatimText (first :: others))) = .error e := by
  -- There are more characters than texts, so the fuel lasts up to the first text with a quote.
  have hlength : (first :: others).length + 3 <
      enoughFuel (bracketed (verbatimText (first :: others))) := by
    have hcommas := length_le_length_commas (fun verbatim => ' ' :: verbatim.quoted) others
    simp only [enoughFuel, bracketed, verbatimText_cons, Verbatim.quoted, List.length_cons,
      List.length_append, List.length_nil] at hcommas ⊢
    omega
  obtain ⟨n, hn⟩ : ∃ n, enoughFuel (bracketed (verbatimText (first :: others))) = n + 2 :=
    ⟨enoughFuel (bracketed (verbatimText (first :: others))) - 2, by omega⟩
  have hsteps : (first :: others).length + 1 < n + 1 := by omega
  obtain ⟨fault, hfault⟩ := exists_error_verbatims h hsteps (maxDepth - 1) [']']
  -- Behind the bracket the first text is read like one behind a comma and a space.
  have hspace : Blank [' '] := by decide
  have hskip : skipSpace (' ' :: (first.quoted ++
      ((others.flatMap fun verbatim => ',' :: ' ' :: verbatim.quoted) ++ [']']))) =
        first.quoted ++
          ((others.flatMap fun verbatim => ',' :: ' ' :: verbatim.quoted) ++ [']']) := by
    simp [Verbatim.quoted, skipSpace, isSpace]
  have hfirst := readItems_true hskip (by decide) n (maxDepth - 1)
  have hspaces := readItems_append hspace n (maxDepth - 1) true (first.quoted ++
    ((others.flatMap fun verbatim => ',' :: ' ' :: verbatim.quoted) ++ [']']))
  rw [List.flatMap_cons, List.append_assoc, List.cons_append, List.cons_append, ← hfirst] at hfault
  rw [List.singleton_append, hfault] at hspaces
  have hread : readLeading (bracketed (verbatimText (first :: others))) = .error fault := by
    rw [readLeading, hn, bracketed, verbatimText_cons, List.cons_append, List.append_assoc,
      show maxDepth = maxDepth - 1 + 1 from rfl]
    simp only [readValue, skipSpace_cons (show isSpace '[' = false by decide), ← hspaces]
  exact ⟨_, parseChars_of_readLeading_error hread⟩

/-! ## The chain -/

theorem escapeInnerQuotes_verbatimText (first : Verbatim) (others : List Verbatim) :
    escapeInnerQuotes (bracketed (verbatimText (first :: others))) =
      '[' :: (literal first.text ++
        ((others.flatMap fun verbatim => ',' :: ' ' :: literal verbatim.text) ++ [']'])) := by
  have hfirst := first.escapeInnerFrom_quoted (endsString_verbatims others)
  rw [escapeInnerFrom_verbatims] at hfirst
  rw [escapeInnerQuotes, bracketed, verbatimText_cons, List.cons_append, List.append_assoc,
    ← hfirst]
  rfl

/-- **Quotes that are not escaped.** Texts between quotes are read as they were meant, whatever
quotes they have inside. -/
theorem readArguments_verbatimText (verbatims : List Verbatim) :
    readArguments (verbatimText verbatims) =
      verbatims.map fun verbatim => .text (String.ofList verbatim.text) := by
  cases verbatims with
  | nil => decide +kernel
  | cons first others =>
    have hliterals := parseChars_literals first others
    by_cases hquote : ∃ verbatim ∈ first :: others, '"' ∈ verbatim.text
    -- The strict strategy refuses the texts, and the sanitized one reads their literals.
    · obtain ⟨e, hstrict⟩ := exists_error_bracketed hquote
      have hdrop := dropTrailingCommas_verbatimText first others
      have hescaped := escapeInnerQuotes_verbatimText first others
      simp [readArguments, readStrict, readSanitized, readArray, hstrict, hdrop, hescaped,
        hliterals, argumentOf]
    · -- Without quotes the texts are their literals already.
      have hquoted : ∀ verbatim ∈ first :: others, verbatim.quoted = literal verbatim.text :=
        fun verbatim hmem => Verbatim.quoted_eq_literal fun hc => hquote ⟨verbatim, hmem, hc⟩
      have hothers : (others.flatMap fun verbatim => ',' :: ' ' :: verbatim.quoted) =
          others.flatMap fun verbatim => ',' :: ' ' :: literal verbatim.text := by
        rw [List.flatMap_def, List.flatMap_def]
        refine congrArg List.flatten (List.map_congr_left fun verbatim hmem => ?_)
        rw [hquoted verbatim (List.mem_cons_of_mem first hmem)]
      have hbracket : bracketed (verbatimText (first :: others)) = '[' :: (literal first.text ++
          ((others.flatMap fun verbatim => ',' :: ' ' :: literal verbatim.text) ++ [']'])) := by
        rw [bracketed, verbatimText_cons, hquoted first List.mem_cons_self, hothers,
          List.cons_append, List.append_assoc]
      simp [readArguments, readStrict, readArray, hbracket, hliterals, argumentOf]

/-- Quotes at the front of a text and beside one another, a text without any, and brackets. -/
def quotedSpeech : List Verbatim :=
  [⟨"\"hi\" he said, \"bye\" now".toList, by simp, by decide, by decide, by decide +kernel⟩,
    ⟨"and".toList, by simp, by decide, by decide, by decide +kernel⟩,
    ⟨" \"\"a".toList, by simp, by decide, by decide, by decide +kernel⟩,
    ⟨"[b,c]".toList, by simp, by decide, by decide, by decide +kernel⟩]

/-- Each of these texts is recovered. -/
theorem readArguments_verbatimText_quotedSpeech :
    readArguments "\"\"hi\" he said, \"bye\" now\", \"and\", \" \"\"a\", \"[b,c]\"".toList =
      [.text "\"hi\" he said, \"bye\" now", .text "and", .text " \"\"a", .text "[b,c]"] :=
  readArguments_verbatimText quotedSpeech

end Deskhand.Command
