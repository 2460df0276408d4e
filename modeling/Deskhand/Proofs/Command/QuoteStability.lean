/-
  Deskhand.Proofs.Command.QuoteStability

  The escaping of inner quotes is stable.

  The pass decides at each quote inside a string whether it ends the string, and looks at what
  follows the quote for that, blanks aside. A quote that ends its string is followed by a comma, a
  closer or nothing, none of which the pass changes; a quote that it escapes has become part of an
  escape. So a second pass goes through the same places as the first one and finds nothing to do.

  The pass takes nothing away and adds nothing but backslashes, which the marks of this module tell
  from those that stood in the text. In the text of a value without objects every string ends where
  one may end, so none is added.
-/

import Deskhand.Proofs.Command.InnerQuotes
import Deskhand.Proofs.Json.Objectless

namespace Deskhand.Command

open Deskhand.Text Deskhand.Json

/-! ## A second pass -/

/-- Where a string may end it still may once the quotes behind it are escaped. -/
theorem endsString_escapeInnerFrom {rest : List Char} (h : endsString rest = true) :
    endsString (escapeInnerFrom false rest) = true := by
  obtain ⟨pad, hpad, hsplit⟩ := exists_append_trimLeft rest
  have hpadQuote : '"' ∉ pad := fun hmem => absurd (hpad '"' hmem) (by decide)
  rw [hsplit, endsString_append hpad] at h
  rw [hsplit, escapeInnerFrom_outside hpadQuote, endsString_append hpad]
  cases hleft : trimLeft rest with
  | nil => rfl
  | cons c behind =>
    have hc := isBlank_eq_false_of_trimLeft hleft
    rw [hleft, endsString, trimLeft_cons hc] at h
    rw [escapeInnerFrom, endsString, trimLeft_cons hc]
    exact h

/-- A second pass that starts where the first one did changes nothing. -/
theorem escapeInnerFrom_escapeInnerFrom (inside : Bool) (s : List Char) :
    escapeInnerFrom inside (escapeInnerFrom inside s) = escapeInnerFrom inside s := by
  -- The cases are the branches of the pass, which takes the same branch again in all but one.
  fun_induction escapeInnerFrom inside s with
  | case1 => rfl
  | case2 c rest ih => rw [escapeInnerFrom, ih]
  | case3 c rest ih => rw [escapeInnerFrom, ih]
  | case4 rest hends _ ih => rw [escapeInnerFrom_close (endsString_escapeInnerFrom hends), ih]
  | case5 rest _ _ ih =>
    -- The second pass takes the backslash and the quote behind it for one escape.
    rw [escapeInnerFrom, ih]
  | case6 c rest hnoEscape hquote ih =>
    by_cases hbackslash : c = '\\'
    · -- Only at the very end a backslash takes nothing with it.
      obtain rfl : rest = [] := by
        cases rest with
        | nil => rfl
        | cons d more => exact absurd rfl (hnoEscape d more hbackslash)
      subst hbackslash
      rfl
    · rw [escapeInnerFrom_plain hquote hbackslash, ih]

/-! ## What was inserted -/

/-- A character that the pass writes: one of the text, or a backslash of its own. -/
inductive Mark where
  | kept (c : Char)
  | inserted
  deriving DecidableEq, Repr

/-- The character as it is written. -/
def Mark.char : Mark → Char
  | .kept c => c
  | .inserted => '\\'

/-- The character as it stood in the text, if it did. -/
def Mark.kept? : Mark → Option Char
  | .kept c => some c
  | .inserted => none

/-- The pass once more, with a mark for each character that it writes. -/
def escapeMarks : Bool → List Char → List Mark
  | _, [] => []
  | false, c :: rest => .kept c :: escapeMarks (c == '"') rest
  | true, '\\' :: c :: rest => .kept '\\' :: .kept c :: escapeMarks true rest
  | true, c :: rest =>
    if c = '"' then
      if endsString rest then .kept c :: escapeMarks false rest
      else .inserted :: .kept c :: escapeMarks true rest
    else .kept c :: escapeMarks true rest

theorem map_char_escapeMarks (inside : Bool) (s : List Char) :
    (escapeMarks inside s).map Mark.char = escapeInnerFrom inside s := by
  fun_induction escapeMarks inside s with
  | case1 => rfl
  | case2 c rest ih =>
    rw [List.map_cons, ih, escapeInnerFrom]
    rfl
  | case3 c rest ih =>
    rw [List.map_cons, List.map_cons, ih, escapeInnerFrom]
    rfl
  | case4 rest hends _ ih =>
    rw [List.map_cons, ih, escapeInnerFrom_close hends]
    rfl
  | case5 rest hends _ ih =>
    have hinner : endsString rest = false := by simpa using hends
    rw [List.map_cons, List.map_cons, ih, escapeInnerFrom_inner hinner]
    rfl
  | case6 c rest hnoEscape hquote ih =>
    rw [List.map_cons, ih, escapeInnerFrom.eq_4, if_neg hquote]
    · rfl
    · exact hnoEscape

/-- Without the backslashes that it has inserted the pass gives the text back. -/
theorem filterMap_kept?_escapeMarks (inside : Bool) (s : List Char) :
    (escapeMarks inside s).filterMap Mark.kept? = s := by
  fun_induction escapeMarks inside s with
  | case1 => rfl
  | case2 c rest ih => exact congrArg (c :: ·) ih
  | case3 c rest ih => exact congrArg ('\\' :: c :: ·) ih
  | case4 rest _ _ ih => exact congrArg ('"' :: ·) ih
  | case5 rest _ _ ih => exact congrArg ('"' :: ·) ih
  | case6 c rest _ _ ih => exact congrArg (c :: ·) ih

/-! ## Values without objects -/

/-- The text of a value without objects is kept in front of what may follow a string, and so are
items without objects. -/
theorem escapeInnerFrom_objectless {phrase : Phrase} {text : List Char}
    (h : Objectless phrase text) {rest : List Char} (hrest : endsString rest = true) :
    escapeInnerFrom false (text ++ rest) = text ++ escapeInnerFrom false rest := by
  induction h generalizing rest with
  | word hword => exact escapeInnerFrom_outside (quote_notMem_word hword) rest
  | number hnumber => exact escapeInnerFrom_outside hnumber.quote_notMem rest
  | string hbody =>
    rw [List.cons_append, List.append_assoc, List.singleton_append, escapeInnerFrom_open,
      escapeInnerFrom_enclosed hbody.enclosed, escapeInnerFrom_close hrest]
    simp
  | emptyArray blank =>
    exact escapeInnerFrom_outside (by simp [blank.notMem (show isSpace '"' = false by decide)]) rest
  | @array items _ ih =>
    have hopen : ∀ s, escapeInnerFrom false ('[' :: s) = '[' :: escapeInnerFrom false s :=
      fun _ => rfl
    have hclose : escapeInnerFrom false (']' :: rest) = ']' :: escapeInnerFrom false rest := rfl
    -- A closing bracket may follow a string, and so may the comma behind an item.
    have hends : endsString (']' :: rest) = true := rfl
    have hitems := ih hends
    rw [List.cons_append, List.append_assoc, List.singleton_append, hopen, hitems, hclose]
    simp
  | @last before text after hbefore _ hafter ih =>
    have hends : endsString (after ++ rest) = true := by rwa [endsString_append hafter.isBlank]
    have htext := ih hends
    simp only [List.append_assoc]
    rw [escapeInnerFrom_outside (hbefore.notMem (by decide)), htext,
      escapeInnerFrom_outside (hafter.notMem (by decide))]
  | @next before text after others hbefore _ hafter _ ih ihOthers =>
    have hcomma : ∀ s, escapeInnerFrom false (',' :: s) = ',' :: escapeInnerFrom false s :=
      fun _ => rfl
    have hends : endsString (after ++ ',' :: (others ++ rest)) = true := by
      rw [endsString_append hafter.isBlank]
      rfl
    have htext := ih hends
    simp only [List.append_assoc, List.cons_append]
    rw [escapeInnerFrom_outside (hbefore.notMem (by decide)), htext,
      escapeInnerFrom_outside (hafter.notMem (by decide)), hcomma, ihOthers hrest]

/-- With nothing but spaces around it a value is kept when its text is. -/
theorem escapeInnerQuotes_framed {before text after : List Char} (hbefore : Blank before)
    (hafter : Blank after)
    (h : ∀ rest, endsString rest = true →
      escapeInnerFrom false (text ++ rest) = text ++ escapeInnerFrom false rest) :
    escapeInnerQuotes (before ++ (text ++ after)) = before ++ (text ++ after) := by
  have hends : endsString after = true := by
    have hblank := endsString_append hafter.isBlank []
    rw [List.append_nil] at hblank
    rw [hblank]
    rfl
  have hspaces : escapeInnerFrom false after = after := by
    have houtside := escapeInnerFrom_outside (hafter.notMem (show isSpace '"' = false by decide)) []
    rwa [List.append_nil, escapeInnerFrom, List.append_nil] at houtside
  rw [escapeInnerQuotes, escapeInnerFrom_outside (hbefore.notMem (by decide)), h after hends,
    hspaces]

/-- **The escaping is stable.** For every text a second pass changes nothing, and the marks of the
pass, which spell what it writes, give the text back without the backslashes that it has inserted.
The text of a value without objects is left as it is, whether it follows the grammar of the format
or has been read as a value in which no object has a member. -/
theorem escapeInnerQuotes_stable :
    (∀ s, escapeInnerQuotes (escapeInnerQuotes s) = escapeInnerQuotes s) ∧
    (∀ s, (escapeMarks false s).map Mark.char = escapeInnerQuotes s ∧
      (escapeMarks false s).filterMap Mark.kept? = s) ∧
    (∀ before text after, Blank before → Objectless .value text → Blank after →
      escapeInnerQuotes (before ++ (text ++ after)) = before ++ (text ++ after)) ∧
    (∀ s value, parseChars s = .ok value → keyless value = true → escapeInnerQuotes s = s) := by
  refine ⟨escapeInnerFrom_escapeInnerFrom false, fun s => ?_, ?_, ?_⟩
  · exact ⟨map_char_escapeMarks false s, filterMap_kept?_escapeMarks false s⟩
  · intro before text after hbefore htext hafter
    exact escapeInnerQuotes_framed hbefore hafter fun _ => escapeInnerFrom_objectless htext
  · intro s value hread hkeyless
    obtain ⟨before, text, after, hbefore, hafter, rfl, hdenotes⟩ :=
      exists_denotes_of_parseChars hread
    exact escapeInnerQuotes_framed hbefore hafter fun _ => escapeInnerFrom_keyless hdenotes hkeyless

end Deskhand.Command
