/-
  Deskhand.Proofs.Command.InnerQuotes

  What the escaping of inner quotes does.

  Whether a quote ends its string is decided by what follows it: a comma, a closer, or the end of
  the text, blanks aside. In a document without keys this holds for the end of every string and for
  no other quote that is not escaped already, so the pass leaves such a document as it is.

  A key is followed by a colon. The pass takes the quote behind a key for one that stands inside,
  and goes on to the next quote that may end a string; behind that one there is no colon. So a
  document with a key is never read again once its quotes are escaped.
-/

import Deskhand.Command.Strategy
import Deskhand.Proofs.Json.TrailingCommas

namespace Deskhand.Command

open Deskhand.Text Deskhand.Json

/-! ## The pass -/

/-- Outside strings everything is kept up to the next quote. -/
theorem escapeInnerFrom_outside {s : List Char} (h : '"' ∉ s) (rest : List Char) :
    escapeInnerFrom false (s ++ rest) = s ++ escapeInnerFrom false rest := by
  induction s with
  | nil => rfl
  | cons c s ih =>
    have hc : (c == '"') = false := by
      simp only [List.mem_cons, not_or] at h
      simpa using Ne.symm h.1
    have hs := ih fun hmem => h (List.mem_cons_of_mem c hmem)
    rw [List.cons_append, escapeInnerFrom, hc, hs, List.cons_append]

theorem escapeInnerFrom_open (rest : List Char) :
    escapeInnerFrom false ('"' :: rest) = '"' :: escapeInnerFrom true rest := rfl

/-- Inside a string a character is kept that neither ends the string nor begins an escape. -/
theorem escapeInnerFrom_plain {c : Char} (hquote : c ≠ '"') (hbackslash : c ≠ '\\')
    (rest : List Char) : escapeInnerFrom true (c :: rest) = c :: escapeInnerFrom true rest := by
  rw [escapeInnerFrom.eq_4]
  · rw [if_neg hquote]
  · rintro d more rfl
    exact absurd rfl hbackslash

theorem escapeInnerFrom_close {rest : List Char} (h : endsString rest = true) :
    escapeInnerFrom true ('"' :: rest) = '"' :: escapeInnerFrom false rest := by
  rw [escapeInnerFrom, if_pos rfl, if_pos h]
  simp

theorem escapeInnerFrom_inner {rest : List Char} (h : endsString rest = false) :
    escapeInnerFrom true ('"' :: rest) = '\\' :: '"' :: escapeInnerFrom true rest := by
  rw [escapeInnerFrom, if_pos rfl, if_neg (by simp [h])]
  simp

/-- Nothing is taken away. -/
theorem length_le_length_escapeInnerFrom (inside : Bool) (s : List Char) :
    s.length ≤ (escapeInnerFrom inside s).length := by
  fun_induction escapeInnerFrom inside s with
  | case1 => exact Nat.le_refl _
  | case2 c rest ih =>
    rw [List.length_cons, List.length_cons]
    omega
  | case3 c rest ih =>
    simp only [List.length_cons]
    omega
  | case4 | case5 | case6 =>
    simp only [List.length_cons]
    omega

theorem endsString_append {s : List Char} (h : ∀ c ∈ s, isBlank c = true) (rest : List Char) :
    endsString (s ++ rest) = endsString rest := by
  rw [endsString, endsString, trimLeft_append_of_blank h]

/-- What is inside a literal is kept. -/
theorem escapeInnerFrom_enclosed {body : List Char} (h : Enclosed (fun _ => True) body)
    (rest : List Char) :
    escapeInnerFrom true (body ++ rest) = body ++ escapeInnerFrom true rest := by
  induction h with
  | nil => rfl
  | plain notQuote notBackslash _ ih =>
    rw [List.cons_append, escapeInnerFrom_plain notQuote notBackslash, ih, List.cons_append]
  | escape _ _ ih =>
    rw [List.cons_append, List.cons_append, escapeInnerFrom, ih, List.cons_append,
      List.cons_append]

/-! ## Documents without keys -/

theorem escapeInnerFrom_string {raw text rest : List Char} (h : Content raw text)
    (hrest : endsString rest = true) :
    escapeInnerFrom false ('"' :: (raw ++ '"' :: rest)) =
      '"' :: (raw ++ '"' :: escapeInnerFrom false rest) := by
  rw [escapeInnerFrom_open, escapeInnerFrom_enclosed h.enclosed, escapeInnerFrom_close hrest]

/-- An item is kept when its text is. -/
theorem escapeInnerFrom_chars {item : Spelled} (hframed : item.Framed)
    (h : ∀ rest, endsString rest = true →
      escapeInnerFrom false (item.text ++ rest) = item.text ++ escapeInnerFrom false rest)
    {rest : List Char} (hrest : endsString rest = true) :
    escapeInnerFrom false (item.chars ++ rest) = item.chars ++ escapeInnerFrom false rest := by
  have hafter : endsString (item.after ++ rest) = true := by
    rw [endsString_append hframed.after.isBlank, hrest]
  simp only [Spelled.chars, List.append_assoc]
  rw [escapeInnerFrom_outside (hframed.before.notMem (by decide)), h _ hafter,
    escapeInnerFrom_outside (hframed.after.notMem (by decide))]

theorem endsString_closing (items : List Spelled) (tail : List Char) :
    endsString (closing items tail) = true := by
  cases items <;> rfl

/-- Items behind the first are kept when each of them is. -/
theorem escapeInnerFrom_closing {items : List Spelled}
    (h : ∀ item ∈ items, ∀ rest, endsString rest = true →
      escapeInnerFrom false (item.chars ++ rest) = item.chars ++ escapeInnerFrom false rest)
    (tail : List Char) :
    escapeInnerFrom false (closing items tail) = closing items (escapeInnerFrom false tail) := by
  induction items with
  | nil => rfl
  | cons item items ih =>
    have hitems := ih fun other hother => h other (List.mem_cons_of_mem item hother)
    have hitem := h item List.mem_cons_self (closing items tail) (endsString_closing items tail)
    have hcomma : ∀ s, escapeInnerFrom false (',' :: s) = ',' :: escapeInnerFrom false s :=
      fun _ => rfl
    rw [closing_cons_chars, closing_cons_chars, hcomma, hitem, hitems]

/-- **Documents without keys are kept.** Every quote of such a document that is not escaped already
opens a string or stands where one may end. -/
theorem escapeInnerFrom_keyless {levels : Nat} {text : List Char} {value : Json}
    (h : Denotes levels text value) (hkeyless : keyless value = true) {rest : List Char}
    (hrest : endsString rest = true) :
    escapeInnerFrom false (text ++ rest) = text ++ escapeInnerFrom false rest := by
  induction h generalizing rest with
  | nullWord => exact escapeInnerFrom_outside (by decide) rest
  | trueWord => exact escapeInnerFrom_outside (by decide) rest
  | falseWord => exact escapeInnerFrom_outside (by decide) rest
  | number numeral =>
    exact escapeInnerFrom_outside (fun hmem => absurd (numeral.chars '"' hmem) (by decide)) rest
  | string content =>
    rw [List.cons_append, List.append_assoc, List.singleton_append,
      escapeInnerFrom_string content hrest]
    simp
  | emptyArray blank =>
    exact escapeInnerFrom_outside (by simp [blank.notMem (show isSpace '"' = false by decide)]) rest
  | emptyObject blank =>
    exact escapeInnerFrom_outside (by simp [blank.notMem (show isSpace '"' = false by decide)]) rest
  | @array levels first others framed denotes ih =>
    have hall := (keylessItems_iff _).1 hkeyless
    -- Each item is kept in front of what may follow a string, and a comma or bracket may.
    have hchars : ∀ item ∈ first :: others, ∀ rest, endsString rest = true →
        escapeInnerFrom false (item.chars ++ rest) =
          item.chars ++ escapeInnerFrom false rest := by
      intro item hitem rest hrest
      have hvalue := hall item.value (List.mem_map_of_mem hitem)
      exact escapeInnerFrom_chars (framed item hitem)
        (fun rest hrest => ih item hitem hvalue hrest) hrest
    have hfirst := hchars first List.mem_cons_self (closing others rest)
      (endsString_closing others rest)
    have hothers := escapeInnerFrom_closing
      (fun item hitem => hchars item (List.mem_cons_of_mem first hitem)) rest
    have hbracket : ∀ s, escapeInnerFrom false ('[' :: s) = '[' :: escapeInnerFrom false s :=
      fun _ => rfl
    rw [arrayText_append, arrayText_append, arrayText, hbracket, hfirst, hothers, arrayText]
  | object framed denotes ih =>
    -- An object with members has a key.
    rw [List.map_cons, keyless_ofMembers] at hkeyless
    cases hkeyless

/-! ## Where a string ends once its quotes are escaped -/

/-- Behind a backslash that the pass has written stands one more character of an escape. -/
theorem exists_of_escapeInnerFrom_backslash {s rest : List Char} {c : Char}
    (h : escapeInnerFrom true s = '\\' :: c :: rest) :
    ∃ behind, rest = escapeInnerFrom true behind := by
  cases s with
  | nil => cases h
  | cons d s =>
    -- The backslash is one that the pass has inserted, or one that the text had.
    by_cases hquote : d = '"'
    · subst hquote
      cases hends : endsString s with
      | true =>
        rw [escapeInnerFrom_close hends] at h
        cases h
      | false =>
        rw [escapeInnerFrom_inner hends] at h
        obtain ⟨-, hrest⟩ := List.cons.inj (List.cons.inj h).2
        exact ⟨s, hrest.symm⟩
    by_cases hbackslash : d = '\\'
    · subst hbackslash
      cases s with
      | nil => cases h
      | cons e s =>
        obtain ⟨-, hrest⟩ := List.cons.inj (List.cons.inj h).2
        exact ⟨s, hrest.symm⟩
    · rw [escapeInnerFrom_plain hquote hbackslash] at h
      exact absurd (List.cons.inj h).1 hbackslash

/-- A plain character that the pass has written stands for itself. -/
theorem exists_of_escapeInnerFrom_plain {s rest : List Char} {c : Char} (hquote : c ≠ '"')
    (hbackslash : c ≠ '\\') (h : escapeInnerFrom true s = c :: rest) :
    ∃ behind, rest = escapeInnerFrom true behind := by
  cases s with
  | nil => cases h
  | cons d s =>
    -- The character is the one of the text: for a quote or an escape another one would be written.
    by_cases hd : d = '"'
    · subst hd
      cases hends : endsString s with
      | true =>
        rw [escapeInnerFrom_close hends] at h
        exact absurd (List.cons.inj h).1.symm hquote
      | false =>
        rw [escapeInnerFrom_inner hends] at h
        exact absurd (List.cons.inj h).1.symm hbackslash
    by_cases hd' : d = '\\'
    · subst hd'
      cases s with
      | nil => exact absurd (List.cons.inj h).1.symm hbackslash
      | cons e s => exact absurd (List.cons.inj h).1.symm hbackslash
    · rw [escapeInnerFrom_plain hd hd'] at h
      exact ⟨s, (List.cons.inj h).2.symm⟩

theorem exists_of_escapeInnerFrom_plains {s text rest : List Char}
    (hplain : ∀ c ∈ text, c ≠ '"' ∧ c ≠ '\\') (h : escapeInnerFrom true s = text ++ rest) :
    ∃ behind, rest = escapeInnerFrom true behind := by
  induction text generalizing s with
  | nil => exact ⟨s, h.symm⟩
  | cons c text ih =>
    obtain ⟨hquote, hbackslash⟩ := hplain c List.mem_cons_self
    obtain ⟨behind, hbehind⟩ := exists_of_escapeInnerFrom_plain hquote hbackslash h
    exact ih (fun d hd => hplain d (List.mem_cons_of_mem c hd)) hbehind.symm

theorem exists_of_escapeInnerFrom_escape {s tail rest : List Char} (htail : EscapeTail tail)
    (h : escapeInnerFrom true s = '\\' :: tail ++ rest) :
    ∃ behind, rest = escapeInnerFrom true behind := by
  cases htail with
  | letter escape => exact exists_of_escapeInnerFrom_backslash h
  | @unit digits digit =>
    obtain ⟨behind, hbehind⟩ := exists_of_escapeInnerFrom_backslash h
    exact exists_of_escapeInnerFrom_plains (fun d hd => ne_quote_of_isAlphanum (digit d hd))
      hbehind.symm
  | @pair leading trailing digit =>
    -- The digits of the first half, a second escape, and the digits of the other half.
    obtain ⟨first, hfirst⟩ := exists_of_escapeInnerFrom_backslash h
    have hboth : escapeInnerFrom true first = leading ++ ('\\' :: 'u' :: (trailing ++ rest)) := by
      rw [← hfirst]
      simp
    obtain ⟨second, hsecond⟩ := exists_of_escapeInnerFrom_plains
      (fun d hd => ne_quote_of_isAlphanum (digit d (List.mem_append_left trailing hd))) hboth
    obtain ⟨third, hthird⟩ := exists_of_escapeInnerFrom_backslash hsecond.symm
    exact exists_of_escapeInnerFrom_plains
      (fun d hd => ne_quote_of_isAlphanum (digit d (List.mem_append_right leading hd)))
      hthird.symm

/-- A string that is read where the pass has been ends at a quote behind which a string may end. -/
theorem exists_behind_of_content {s raw text rest : List Char} (hcontent : Content raw text)
    (h : escapeInnerFrom true s = raw ++ '"' :: rest) :
    ∃ behind, rest = escapeInnerFrom false behind ∧ endsString behind = true := by
  induction hcontent generalizing s with
  | nil =>
    -- The quote that was read as the closing one is one that the pass has kept.
    cases s with
    | nil => cases h
    | cons c s =>
      by_cases hquote : c = '"'
      · subst hquote
        cases hends : endsString s with
        | true =>
          rw [escapeInnerFrom_close hends] at h
          exact ⟨s, (List.cons.inj h).2.symm, hends⟩
        | false =>
          rw [escapeInnerFrom_inner hends] at h
          cases h
      by_cases hbackslash : c = '\\'
      · subst hbackslash
        cases s <;> cases h
      · rw [escapeInnerFrom_plain hquote hbackslash] at h
        exact absurd (List.cons.inj h).1 hquote
  | @cons c written raw text coded content ih =>
    rw [List.append_assoc] at h
    cases coded with
    | plain notQuote notBackslash visible =>
      obtain ⟨behind, hbehind⟩ := exists_of_escapeInnerFrom_plain notQuote notBackslash h
      exact ih hbehind.symm
    | escape shape reads =>
      obtain ⟨behind, hbehind⟩ := exists_of_escapeInnerFrom_escape shape h
      exact ih hbehind.symm

/-! ## Documents with keys -/

/-- No colon follows the end of a string that the pass has left. -/
theorem skipSpace_ne_colon {behind : List Char} (h : endsString behind = true) (rest : List Char) :
    skipSpace (escapeInnerFrom false behind) ≠ ':' :: rest := by
  induction behind with
  | nil =>
    intro heq
    cases heq
  | cons c behind ih =>
    have hkept : escapeInnerFrom false (c :: behind) = c :: escapeInnerFrom (c == '"') behind := rfl
    cases hspace : isSpace c with
    | true =>
      have hblank := isBlank_of_isSpace hspace
      have hquote : (c == '"') = false := by
        cases heq : (c == '"') with
        | false => rfl
        | true =>
          obtain rfl : c = '"' := by simpa using heq
          cases hspace
      have hbehind : endsString behind = true := by
        have hsame := endsString_append (s := [c]) (by simpa using hblank) behind
        rw [← hsame]
        exact h
      rw [hkept, hquote, skipSpace, List.dropWhile_cons_of_pos hspace]
      exact ih hbehind
    | false =>
      -- What may follow a string is written as it is, and a colon is none of it.
      rw [hkept, skipSpace_cons hspace]
      intro heq
      obtain ⟨rfl, -⟩ := List.cons.inj heq
      cases h

/-- A key is refused once its closing quote is escaped, or what ends its string instead is no
colon. -/
theorem exists_error_readMembers {before : List Char} (hbefore : Blank before) (n depth : Nat)
    (s : List Char) :
    ∃ fault, readMembers n depth true (before ++ '"' :: escapeInnerFrom true s) =
      .error fault := by
  cases n with
  | zero => exact ⟨_, rfl⟩
  | succ n =>
    have hskip : skipSpace (before ++ '"' :: escapeInnerFrom true s) =
        '"' :: escapeInnerFrom true s := by
      rw [skipSpace_append hbefore]
      exact skipSpace_cons (by decide) _
    cases hread : readString (escapeInnerFrom true s) with
    | error fault => exact ⟨fault, by simp [readMembers, hskip, hread]⟩
    | ok found =>
      obtain ⟨key, rest⟩ := found
      -- The key that was read ends at a quote of the pass, and no colon follows.
      obtain ⟨raw, text, hs, -, hcontent⟩ := exists_content_of_readString hread
      obtain ⟨behind, rfl, hends⟩ := exists_behind_of_content hcontent hs
      cases hnext : skipSpace (escapeInnerFrom false behind) with
      | nil => simp [readMembers, hskip, hread, hnext, faultAt]
      | cons c more =>
        have hcolon : c ≠ ':' := by
          rintro rfl
          exact skipSpace_ne_colon hends more hnext
        simp [readMembers, hskip, hread, hnext, hcolon, faultAt]

/-- What becomes of an item when quotes are escaped, given so many steps and levels: it is kept if
there is no key in it, and refused otherwise. -/
structure Settles (item : Spelled) (fuel depth : Nat) : Prop where
  reads : item.Reads fuel depth
  kept : keyless item.value = true → ∀ rest, endsString rest = true →
    escapeInnerFrom false (item.chars ++ rest) = item.chars ++ escapeInnerFrom false rest
  refused : keyless item.value = false → ∀ n rest, fuel ≤ n → endsString rest = true →
    ∃ fault, readValue n depth (escapeInnerFrom false (item.text ++ rest)) = .error fault

section Items

variable {item : Spelled} {items : List Spelled} {fuel depth n : Nat}

theorem Settles.exists_skipSpace (h : Settles item fuel depth) (rest : List Char) :
    ∃ c more, skipSpace (escapeInnerFrom false (item.chars ++ rest)) = c :: more ∧ c ≠ ']' ∧
      escapeInnerFrom false (item.text ++ (item.after ++ rest)) = c :: more := by
  obtain ⟨c, text, htext, hspace, hbracket⟩ := h.reads.opens
  have hkept : escapeInnerFrom false (item.text ++ (item.after ++ rest)) =
      c :: escapeInnerFrom (c == '"') (text ++ (item.after ++ rest)) := by
    rw [htext]
    rfl
  refine ⟨c, _, ?_, hbracket, hkept⟩
  simp only [Spelled.chars, List.append_assoc]
  -- The spaces in front of the item are kept, and the reader skips them.
  rw [escapeInnerFrom_outside (h.reads.before.notMem (by decide)), skipSpace_append h.reads.before,
    hkept]
  exact skipSpace_cons hspace _

theorem endsValue_escaped_closing (items : List Spelled) (tail : List Char) :
    EndsValue (escapeInnerFrom false (closing items tail)) := by
  cases items with
  | nil => exact endsValue_bracket _
  | cons item items => exact endsValue_comma _

/-- Behind the first item the reader comes to the first one with a key in it. -/
theorem exists_error_closing (h : ∀ item ∈ items, Settles item fuel depth)
    (hkeyed : ∃ item ∈ items, keyless item.value = false) (hn : fuel + items.length < n)
    (tail : List Char) :
    ∃ fault, readItems n depth false (escapeInnerFrom false (closing items tail)) =
      .error fault := by
  induction items generalizing n with
  | nil =>
    obtain ⟨item, hmem, -⟩ := hkeyed
    cases hmem
  | cons item items ih =>
    rw [List.length_cons] at hn
    obtain ⟨m, rfl⟩ : ∃ m, n = m + 2 := ⟨n - 2, by omega⟩
    have hitem := h item List.mem_cons_self
    have hends := endsString_closing items tail
    have hcomma : escapeInnerFrom false (closing (item :: items) tail) =
        ',' :: escapeInnerFrom false (item.chars ++ closing items tail) := by
      rw [closing_cons_chars]
      rfl
    rw [hcomma]
    -- The first item with a key stops the reader; those in front of it are read.
    cases hvalue : keyless item.value with
    | false =>
      have hafter : endsString (item.after ++ closing items tail) = true := by
        rw [endsString_append hitem.reads.after.isBlank, hends]
      obtain ⟨fault, hread⟩ := hitem.refused hvalue (m + 1) _ (by omega) hafter
      obtain ⟨c, more, hskip, hbracket, htext⟩ := hitem.exists_skipSpace (closing items tail)
      rw [htext] at hread
      exact ⟨fault, readItems_comma_error hskip hbracket hread⟩
    | true =>
      have hlater : ∃ other ∈ items, keyless other.value = false := by
        obtain ⟨other, hmem, hother⟩ := hkeyed
        rcases List.mem_cons.1 hmem with rfl | hmem
        · rw [hvalue] at hother
          cases hother
        · exact ⟨other, hmem, hother⟩
      obtain ⟨fault, hfault⟩ := ih (n := m + 1)
        (fun other hother => h other (List.mem_cons_of_mem item hother)) hlater (by omega)
      have hnext := endsValue_append hitem.reads.after (endsValue_escaped_closing items tail)
      rw [hitem.kept hvalue _ hends, readItems_next hitem.reads (by omega) hnext,
        readItems_append hitem.reads.after, hfault]
      exact ⟨fault, rfl⟩

theorem exists_error_arrayText {first : Spelled}
    (h : ∀ item ∈ first :: items, Settles item fuel depth)
    (hkeyed : ∃ item ∈ first :: items, keyless item.value = false)
    (hn : fuel + items.length + 2 < n) (tail : List Char) :
    ∃ fault, readValue n (depth + 1) (escapeInnerFrom false (arrayText first items tail)) =
      .error fault := by
  obtain ⟨m, rfl⟩ : ∃ m, n = m + 2 := ⟨n - 2, by omega⟩
  -- Behind the bracket the first item is read like one behind a comma.
  obtain ⟨fault, hfault⟩ := exists_error_closing h hkeyed
    (show fuel + (first :: items).length < m + 1 by rw [List.length_cons]; omega) tail
  obtain ⟨c, more, hskip, hbracket, -⟩ := (h first List.mem_cons_self).exists_skipSpace
    (closing items tail)
  have hclosing : escapeInnerFrom false (closing (first :: items) tail) =
      ',' :: escapeInnerFrom false (first.chars ++ closing items tail) := by
    rw [closing_cons_chars]
    rfl
  have hopen : escapeInnerFrom false (arrayText first items tail) =
      '[' :: escapeInnerFrom false (first.chars ++ closing items tail) := rfl
  rw [hclosing, ← readItems_true hskip hbracket] at hfault
  exact ⟨fault, by simp [hopen, readValue, skipSpace_cons, isSpace, hfault]⟩

end Items

/-- **Documents with a key are refused.** Once its quotes are escaped a text with a key in its value
is not read any more. -/
theorem exists_error_keyed {levels depth : Nat} {text : List Char} {value : Json}
    (h : Denotes levels text value) (hkeyed : keyless value = false) (hdepth : levels ≤ depth)
    {n : Nat} (hn : 2 * text.length ≤ n) {rest : List Char} (hrest : endsString rest = true) :
    ∃ fault, readValue n depth (escapeInnerFrom false (text ++ rest)) = .error fault := by
  induction h generalizing depth n rest with
  | nullWord | trueWord | falseWord | number | string | emptyArray | emptyObject => cases hkeyed
  | @array levels first others framed denotes ih =>
    obtain ⟨depth, rfl⟩ : ∃ d, depth = d + 1 := ⟨depth - 1, by omega⟩
    -- Once the commas in front of it are read, there is fuel left for each item.
    have hsettles : ∀ item ∈ first :: others, Settles item (n - others.length - 3) depth := by
      intro item hitem
      have hlength := length_le_of_mem_arrayText hitem
      refine ⟨?_, fun hkeyless rest hrest => ?_, fun hvalue m rest hm hrest => ?_⟩
      · exact ((denotes item hitem).reads (framed item hitem)
          (Nat.le_of_succ_le_succ hdepth)).mono (by omega)
      · exact escapeInnerFrom_chars (framed item hitem)
          (fun rest hrest => escapeInnerFrom_keyless (denotes item hitem) hkeyless hrest) hrest
      · exact ih item hitem hvalue (Nat.le_of_succ_le_succ hdepth) (by omega) hrest
    have hitems : ∃ item ∈ first :: others, keyless item.value = false := by
      obtain ⟨value, hvalue, hfalse⟩ := (keylessItems_eq_false_iff _).1 hkeyed
      obtain ⟨item, hitem, rfl⟩ := List.mem_map.1 hvalue
      exact ⟨item, hitem, hfalse⟩
    have hlength := length_le_of_mem_arrayText (List.mem_cons_self (a := first) (l := others))
    rw [arrayText_append]
    exact exists_error_arrayText hsettles hitems (by omega) rest
  | @object levels first others framed denotes ih =>
    obtain ⟨depth, rfl⟩ : ∃ d, depth = d + 1 := ⟨depth - 1, by omega⟩
    -- The first key is refused, so nothing behind it matters.
    have hbefore := (framed first List.mem_cons_self).before
    have hescaped : escapeInnerFrom false (objectText first others [] ++ rest) =
        '\x7b' :: (first.before ++ '"' ::
          escapeInnerFrom true (first.behindQuote ++ closingMembers others rest)) := by
      have hbrace : ∀ s, escapeInnerFrom false ('\x7b' :: s) = '\x7b' :: escapeInnerFrom false s :=
        fun _ => rfl
      rw [objectText_append, objectText, SpelledMember.chars, List.append_assoc, hbrace,
        escapeInnerFrom_outside (hbefore.notMem (by decide)), List.cons_append,
        escapeInnerFrom_open]
    obtain ⟨m, rfl⟩ : ∃ m, n = m + 1 := ⟨n - 1, by simp [objectText] at hn; omega⟩
    obtain ⟨fault, hfault⟩ := exists_error_readMembers hbefore m depth
      (first.behindQuote ++ closingMembers others rest)
    rw [hescaped]
    exact ⟨fault, by simp [readValue, skipSpace_cons, isSpace, hfault]⟩

end Deskhand.Command
