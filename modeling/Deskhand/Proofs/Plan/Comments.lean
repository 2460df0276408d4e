/-
  Deskhand.Proofs.Plan.Comments

  The comments of a text.

  A text is laid out in string literals, comments and single characters in one way only: a quote
  opens a literal, two slashes open a comment that goes on to the next line feed, and any other
  character stands for itself. The comment scan drops the comments of this layout and nothing else.

  What is left is laid out in the parts that were kept. A slash that stood alone is not joined with
  another one: a comment is followed by a line feed or by nothing, and the character before it is no
  slash, or the comment would have begun there. A second scan therefore finds nothing to drop.
-/

import Deskhand.Proofs.Plan.Lines
import Deskhand.Proofs.Text.Literals
import Deskhand.Proofs.Text.Substitution

namespace Deskhand.Plan

open Deskhand.Text

/-! ## Lines -/

/-- A text goes on to its first line feed or to its end. -/
theorem exists_line_append (s : List Char) :
    ∃ line rest, s = line ++ rest ∧ '\n' ∉ line ∧ ∀ c ∈ rest.head?, c = '\n' := by
  obtain ⟨line, rest, hs, hline, hrest⟩ := exists_append_of_class (· != '\n') s
  refine ⟨line, rest, hs, fun hmem => ?_, fun c hc => by simpa using hrest c hc⟩
  simpa using hline '\n' hmem

/-- There is only one way to see how far a line goes. -/
theorem line_unique {line other rest behind : List Char} (hline : '\n' ∉ line)
    (hother : '\n' ∉ other) (hrest : ∀ c ∈ rest.head?, c = '\n')
    (hbehind : ∀ c ∈ behind.head?, c = '\n') (h : line ++ rest = other ++ behind) :
    line = other ∧ rest = behind := by
  have htake : ∀ {line rest : List Char}, '\n' ∉ line → (∀ c ∈ rest.head?, c = '\n') →
      (line ++ rest).takeWhile (· != '\n') = line := by
    intro line rest hline hrest
    have hall : ∀ c ∈ line, (c != '\n') = true := fun c hc => by
      have hne : c ≠ '\n' := fun heq => hline (heq ▸ hc)
      simpa using hne
    rw [List.takeWhile_append_of_pos hall]
    cases rest with
    | nil => simp
    | cons c rest =>
      obtain rfl := hrest c rfl
      simp
  have hsame : line = other := by
    rw [← htake hline hrest, h, htake hother hbehind]
  subst hsame
  exact ⟨rfl, List.append_cancel_left h⟩

/-! ## Layouts -/

/-- A part of a text. -/
inductive Part where
  | code (c : Char)
  | literal (text : List Char)
  | comment (text : List Char)
  deriving DecidableEq, Repr

/-- The part as it stands in the text. -/
def Part.text : Part → List Char
  | .code c => [c]
  | .literal text => text
  | .comment text => text

/-- Whether the part is a comment. -/
def Part.isComment : Part → Bool
  | .comment _ => true
  | _ => false

/-- The parts that are no comments, in order. -/
def withoutComments (parts : List Part) : List Part := parts.filter fun part => !part.isComment

/-- What stands in the parts, one behind the other. -/
def textOf (parts : List Part) : List Char := parts.flatMap Part.text

theorem textOf_literal (body : List Char) (parts : List Part) :
    textOf (.literal ('"' :: (body ++ ['"'])) :: parts) = '"' :: (body ++ '"' :: textOf parts) := by
  simp [textOf, Part.text]

theorem textOf_openLiteral (text : List Char) : textOf [.literal text] = text :=
  List.flatMap_singleton Part.text (.literal text)

theorem textOf_comment (text : List Char) (parts : List Part) :
    textOf (.comment ('/' :: '/' :: text) :: parts) = '/' :: '/' :: (text ++ textOf parts) :=
  rfl

theorem withoutComments_literal (text : List Char) (parts : List Part) :
    withoutComments (.literal text :: parts) = .literal text :: withoutComments parts :=
  rfl

theorem isComment_of_mem_withoutComments {parts : List Part} {part : Part}
    (h : part ∈ withoutComments parts) : part.isComment = false := by
  simpa using (List.mem_filter.1 h).2

/-- How a text is laid out. Only its last literal may be left open. -/
inductive Laid : List Char → List Part → Prop where
  | nil : Laid [] []
  | code {c : Char} {rest : List Char} {parts : List Part} (notQuote : c ≠ '"')
      (notComment : ¬ (c = '/' ∧ rest.head? = some '/')) (behind : Laid rest parts) :
      Laid (c :: rest) (.code c :: parts)
  | literal {body rest : List Char} {parts : List Part} (enclosed : Enclosed (fun _ => True) body)
      (behind : Laid rest parts) :
      Laid ('"' :: (body ++ '"' :: rest)) (.literal ('"' :: (body ++ ['"'])) :: parts)
  | openLiteral {body rest : List Char} (enclosed : Enclosed (fun _ => True) body)
      (breaksOff : BreaksOff rest) :
      Laid ('"' :: (body ++ rest)) [.literal ('"' :: (body ++ rest))]
  | comment {text rest : List Char} {parts : List Part} (oneLine : '\n' ∉ text)
      (ends : ∀ c ∈ rest.head?, c = '\n') (behind : Laid rest parts) :
      Laid ('/' :: '/' :: (text ++ rest)) (.comment ('/' :: '/' :: text) :: parts)

/-- Nothing of the text is missing in its layout. -/
theorem Laid.eq_textOf {s : List Char} {parts : List Part} (h : Laid s parts) :
    s = textOf parts := by
  induction h with
  | nil => rfl
  | code _ _ _ ih => exact congrArg (_ :: ·) ih
  | literal _ _ ih => rw [textOf_literal, ← ih]
  | openLiteral => rw [textOf_openLiteral]
  | comment _ _ _ ih => rw [textOf_comment, ← ih]

/-- Every text has a layout. -/
theorem exists_laid (s : List Char) : ∃ parts, Laid s parts := by
  induction hn : s.length using Nat.strongRecOn generalizing s with
  | ind n ih =>
    subst hn
    cases s with
    | nil => exact ⟨[], .nil⟩
    | cons c s =>
      by_cases hquote : c = '"'
      · subst hquote
        -- The literal is closed, or it is left open up to the end.
        obtain ⟨body, rest, rfl, hbody, hrest⟩ := exists_enclosed_append s
        cases hrest with
        | quote rest =>
          have hshorter : rest.length < ('"' :: (body ++ '"' :: rest)).length := by
            simp only [List.length_cons, List.length_append]
            omega
          obtain ⟨parts, hparts⟩ := ih rest.length hshorter rest rfl
          exact ⟨_, .literal hbody hparts⟩
        | breaksOff hoff => exact ⟨_, .openLiteral hbody hoff⟩
      by_cases hcomment : c = '/' ∧ s.head? = some '/'
      · obtain ⟨rfl, hhead⟩ := hcomment
        obtain ⟨s, rfl⟩ := List.head?_eq_some_iff.1 hhead
        obtain ⟨text, rest, rfl, honeLine, hends⟩ := exists_line_append s
        have hshorter : rest.length < ('/' :: '/' :: (text ++ rest)).length := by
          simp only [List.length_cons, List.length_append]
          omega
        obtain ⟨parts, hparts⟩ := ih rest.length hshorter rest rfl
        exact ⟨_, .comment honeLine hends hparts⟩
      · obtain ⟨parts, hparts⟩ := ih s.length (Nat.lt_succ_self _) s rfl
        exact ⟨_, .code hquote hcomment hparts⟩

/-! ## One layout only

What a text begins with decides which part comes first and where it ends. -/

/-- A character that opens nothing is a part of its own. -/
theorem Laid.of_code {c : Char} {rest : List Char} {parts : List Part} (notQuote : c ≠ '"')
    (notComment : ¬ (c = '/' ∧ rest.head? = some '/')) (h : Laid (c :: rest) parts) :
    ∃ behind, parts = .code c :: behind ∧ Laid rest behind := by
  cases h with
  | code _ _ behind => exact ⟨_, rfl, behind⟩
  | literal | openLiteral => exact absurd rfl notQuote
  | comment => exact absurd ⟨rfl, rfl⟩ notComment

/-- A literal goes up to its closing quote. -/
theorem Laid.of_literal {body rest : List Char} {parts : List Part}
    (enclosed : Enclosed (fun _ => True) body) (h : Laid ('"' :: (body ++ '"' :: rest)) parts) :
    ∃ behind, parts = .literal ('"' :: (body ++ ['"'])) :: behind ∧ Laid rest behind := by
  generalize hwhole : '"' :: (body ++ '"' :: rest) = whole at h
  cases h with
  | nil | comment => cases hwhole
  | code notQuote => exact absurd (List.cons.inj hwhole).1.symm notQuote
  | literal enclosed' behind =>
    -- The first quote that no backslash takes closes both.
    obtain ⟨rfl, hrest⟩ := enclosed.unique enclosed' (.quote _) (.quote _) (List.cons.inj hwhole).2
    obtain ⟨-, rfl⟩ := List.cons.inj hrest
    exact ⟨_, rfl, behind⟩
  | openLiteral enclosed' breaksOff =>
    -- A literal that is left open holds no quote on which it could be closed.
    obtain ⟨-, rfl⟩ :=
      enclosed.unique enclosed' (.quote _) (.breaksOff breaksOff) (List.cons.inj hwhole).2
    cases breaksOff

theorem Laid.of_openLiteral {body rest : List Char} {parts : List Part}
    (enclosed : Enclosed (fun _ => True) body) (breaksOff : BreaksOff rest)
    (h : Laid ('"' :: (body ++ rest)) parts) : parts = [.literal ('"' :: (body ++ rest))] := by
  generalize hwhole : '"' :: (body ++ rest) = whole at h
  cases h with
  | nil | comment => cases hwhole
  | code notQuote => exact absurd (List.cons.inj hwhole).1.symm notQuote
  | literal enclosed' =>
    obtain ⟨-, rfl⟩ :=
      enclosed.unique enclosed' (.breaksOff breaksOff) (.quote _) (List.cons.inj hwhole).2
    cases breaksOff
  | openLiteral => rfl

theorem Laid.of_comment {text rest : List Char} {parts : List Part} (oneLine : '\n' ∉ text)
    (ends : ∀ c ∈ rest.head?, c = '\n') (h : Laid ('/' :: '/' :: (text ++ rest)) parts) :
    ∃ behind, parts = .comment ('/' :: '/' :: text) :: behind ∧ Laid rest behind := by
  generalize hwhole : '/' :: '/' :: (text ++ rest) = whole at h
  cases h with
  | nil | literal | openLiteral => cases hwhole
  | code _ notComment =>
    obtain ⟨rfl, rfl⟩ := List.cons.inj hwhole
    exact absurd ⟨rfl, rfl⟩ notComment
  | comment oneLine' ends' behind =>
    obtain ⟨rfl, rfl⟩ :=
      line_unique oneLine oneLine' ends ends' (List.cons.inj (List.cons.inj hwhole).2).2
    exact ⟨_, rfl, behind⟩

theorem Laid.unique {s : List Char} {parts others : List Part} (h : Laid s parts)
    (hothers : Laid s others) : others = parts := by
  induction h generalizing others with
  | nil =>
    cases hothers
    rfl
  | code notQuote notComment _ ih =>
    obtain ⟨behind, rfl, hbehind⟩ := hothers.of_code notQuote notComment
    rw [ih hbehind]
  | literal enclosed _ ih =>
    obtain ⟨behind, rfl, hbehind⟩ := hothers.of_literal enclosed
    rw [ih hbehind]
  | openLiteral enclosed breaksOff => exact hothers.of_openLiteral enclosed breaksOff
  | comment oneLine ends _ ih =>
    obtain ⟨behind, rfl, hbehind⟩ := hothers.of_comment oneLine ends
    rw [ih hbehind]

/-! ## The scan -/

theorem stripFrom_breaksOff {s : List Char} (h : BreaksOff s) : stripFrom .inString s = s := by
  cases h <;> rfl

/-- A comment is dropped, with a line feed or nothing behind it. -/
theorem stripFrom_line {line rest : List Char} (hline : '\n' ∉ line)
    (hrest : ∀ c ∈ rest.head?, c = '\n') :
    stripFrom .inComment (line ++ rest) = stripFrom .outside rest := by
  cases rest with
  | nil =>
    induction line with
    | nil => rfl
    | cons c line ih =>
      have hne : c ≠ '\n' := fun heq => hline (heq ▸ List.mem_cons_self)
      have hbehind := ih fun hmem => hline (List.mem_cons_of_mem c hmem)
      simpa [stripFrom, hne] using hbehind
  | cons c rest =>
    obtain rfl := hrest c rfl
    rw [stripFrom_inComment hline, stripFrom_outside (by decide) (by decide)]

/-- The scan drops the comments of a layout and nothing else. -/
theorem Laid.stripFrom_eq {s : List Char} {parts : List Part} (h : Laid s parts) :
    stripFrom .outside s = textOf (withoutComments parts) := by
  induction h with
  | nil => rfl
  | code notQuote notComment _ ih =>
    rw [stripFrom, if_neg notQuote, if_neg notComment, ih]
    rfl
  | @literal body rest parts enclosed _ ih =>
    have hclose : stripFrom .inString ('"' :: rest) = '"' :: stripFrom .outside rest := rfl
    rw [stripFrom_quote, stripFrom_enclosed enclosed, hclose, ih, withoutComments_literal,
      textOf_literal]
  | openLiteral enclosed breaksOff =>
    rw [stripFrom_quote, stripFrom_enclosed enclosed, stripFrom_breaksOff breaksOff,
      withoutComments_literal, withoutComments, List.filter_nil, textOf_openLiteral]
  | @comment text rest parts oneLine ends _ ih =>
    have hline : '\n' ∉ '/' :: text := by simpa using oneLine
    exact (stripFrom_line hline ends).trans ih

theorem Laid.head?_textOf {s : List Char} {parts : List Part} (h : Laid s parts)
    (hs : s.head? ≠ some '/') : (textOf (withoutComments parts)).head? = s.head? := by
  -- Only a comment has something else behind it once it is dropped.
  cases h with
  | comment => exact absurd rfl hs
  | _ => rfl

/-- What is left of a text is laid out in the parts that were kept. -/
theorem Laid.kept {s : List Char} {parts : List Part} (h : Laid s parts) :
    Laid (textOf (withoutComments parts)) (withoutComments parts) := by
  induction h with
  | nil => exact .nil
  | @code c rest parts notQuote notComment behind ih =>
    refine .code notQuote ?_ ih
    -- A slash that stood alone has the same character behind it as before.
    rintro ⟨hslash, hhead⟩
    have hrest : rest.head? ≠ some '/' := fun heq => notComment ⟨hslash, heq⟩
    exact hrest (behind.head?_textOf hrest ▸ hhead)
  | @literal body rest parts enclosed _ ih =>
    have hlaid := Laid.literal enclosed ih
    rwa [← textOf_literal] at hlaid
  | @openLiteral body rest enclosed breaksOff =>
    have hsame : withoutComments [.literal ('"' :: (body ++ rest))] =
        [.literal ('"' :: (body ++ rest))] := rfl
    rw [hsame, textOf_openLiteral]
    exact .openLiteral enclosed breaksOff
  | comment _ _ _ ih => exact ih

/-! ## Outside string literals -/

/-- A beginning of a text that ends outside its literals. Comments do not count here: a quote opens
a literal wherever it stands outside one. -/
inductive Outside : List Char → Prop where
  | nil : Outside []
  | code {c : Char} {rest : List Char} (notQuote : c ≠ '"') (behind : Outside rest) :
      Outside (c :: rest)
  | literal {body rest : List Char} (enclosed : Enclosed (fun _ => True) body)
      (behind : Outside rest) : Outside ('"' :: (body ++ '"' :: rest))

/-- In a text without comments no two slashes stand outside its literals. -/
theorem Laid.not_outside {front back s : List Char} {parts : List Part} (h : Laid s parts)
    (hkept : ∀ part ∈ parts, part.isComment = false) (hs : s = front ++ '/' :: '/' :: back) :
    ¬ Outside front := by
  intro hfront
  induction hfront generalizing s parts with
  | nil =>
    -- A second slash behind the first one would have begun a comment.
    cases h with
    | nil => cases hs
    | code _ notComment =>
      obtain ⟨rfl, rfl⟩ := List.cons.inj hs
      exact notComment ⟨rfl, rfl⟩
    | literal | openLiteral => cases hs
    | comment => cases hkept _ List.mem_cons_self
  | code notQuote _ ih =>
    -- The character may be the first of two slashes, but then a comment would begin with it.
    cases h with
    | nil => cases hs
    | code _ _ behind =>
      exact ih behind (fun part hpart => hkept part (List.mem_cons_of_mem _ hpart))
        (List.cons.inj hs).2
    | literal | openLiteral => exact absurd (List.cons.inj hs).1.symm notQuote
    | comment => cases hkept _ List.mem_cons_self
  | literal enclosed _ ih =>
    -- The literal is the same in the layout, so the front goes on behind it.
    rw [List.cons_append, List.append_assoc, List.cons_append] at hs
    subst hs
    obtain ⟨behind, rfl, hbehind⟩ := h.of_literal enclosed
    exact ih hbehind (fun part hpart => hkept part (List.mem_cons_of_mem _ hpart)) rfl

/-! ## Stripping -/

/-- Nothing is dropped from a text without comments. -/
theorem Laid.stripComments_eq {s : List Char} {parts : List Part} (h : Laid s parts)
    (hkept : ∀ part ∈ parts, part.isComment = false) : stripComments s = s := by
  have hparts : withoutComments parts = parts :=
    List.filter_eq_self.2 fun part hpart => by simp [hkept part hpart]
  rw [stripComments, h.stripFrom_eq, hparts, ← h.eq_textOf]

/-- **Stripping drops the comments and nothing else.** A text has exactly one layout in literals,
comments and other characters, and what is left of it is the text of the parts that are no comments,
in order. It is laid out in just these parts, so every literal is still there as it was; no two
slashes stand outside its literals, and stripping it again changes nothing. -/
theorem stripComments_drops_comments (s : List Char) :
    ∃ parts, Laid s parts ∧ (∀ others, Laid s others → others = parts) ∧
      s = textOf parts ∧ stripComments s = textOf (withoutComments parts) ∧
      Laid (stripComments s) (withoutComments parts) ∧
      (∀ front back, stripComments s = front ++ '/' :: '/' :: back → ¬ Outside front) ∧
      stripComments (stripComments s) = stripComments s := by
  obtain ⟨parts, hlaid⟩ := exists_laid s
  have hstrip : stripComments s = textOf (withoutComments parts) := hlaid.stripFrom_eq
  have hleft : Laid (stripComments s) (withoutComments parts) := by
    rw [hstrip]
    exact hlaid.kept
  have hkept : ∀ part ∈ withoutComments parts, part.isComment = false :=
    fun _ => isComment_of_mem_withoutComments
  exact ⟨parts, hlaid, fun _ => hlaid.unique, hlaid.eq_textOf, hstrip, hleft,
    fun _ _ => hleft.not_outside hkept, hleft.stripComments_eq hkept⟩

/-- Slashes in a literal are no comment, and a quote in a comment opens no literal. -/
example : stripComments "[\"a//b\", // c \"\n\"d\"]".toList = "[\"a//b\", \n\"d\"]".toList := by
  decide

end Deskhand.Plan
