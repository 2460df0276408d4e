/-
  Deskhand.Proofs.Plan.Lines

  Comments and line breaks.

  What the comment scan and the joining of lines do to the parts of an array. A string literal
  passes both of them unchanged: the scan leaves a literal where it has entered it, since a
  backslash takes the character behind it along, and no literal holds a line break. A comment
  becomes its line feed, and what has only spaces keeps only spaces.
-/

import Deskhand.Plan.Extraction
import Deskhand.Proofs.Json.Items

namespace Deskhand.Plan

open Deskhand.Json Deskhand.Text

/-! ## The comment scan -/

theorem stripFrom_outside {c : Char} (hquote : c ≠ '"') (hslash : c ≠ '/') (rest : List Char) :
    stripFrom .outside (c :: rest) = c :: stripFrom .outside rest := by
  simp [stripFrom, hquote, hslash]

theorem stripFrom_inComment {text : List Char} (h : '\n' ∉ text) (rest : List Char) :
    stripFrom .inComment (text ++ '\n' :: rest) = '\n' :: stripFrom .outside rest := by
  induction text with
  | nil => rfl
  | cons c text ih =>
    have hne : c ≠ '\n' := fun heq => h (heq ▸ List.mem_cons_self)
    have htext := ih fun hmem => h (List.mem_cons_of_mem c hmem)
    rw [List.cons_append, stripFrom, if_neg hne]
    exact htext

theorem stripFrom_quote (rest : List Char) :
    stripFrom .outside ('"' :: rest) = '"' :: stripFrom .inString rest :=
  rfl

/-- What is inside a literal is kept, and the scan is still in the literal. -/
theorem stripFrom_enclosed {body : List Char} (h : Enclosed (fun _ => True) body)
    (rest : List Char) : stripFrom .inString (body ++ rest) = body ++ stripFrom .inString rest := by
  induction h with
  | nil => rfl
  | plain notQuote notBackslash _ ih => simp [stripFrom, notQuote, notBackslash, ih]
  | escape _ _ ih => simp [stripFrom, ih]

/-- A string literal is kept, and the scan is outside again. -/
theorem stripFrom_literal (s rest : List Char) :
    stripFrom .outside (literal s ++ rest) = literal s ++ stripFrom .outside rest := by
  have hwhole : ∀ more, literal s ++ more = '"' :: (s.flatMap escapeChar ++ '"' :: more) := by
    simp [literal]
  have hclose : stripFrom .inString ('"' :: rest) = '"' :: stripFrom .outside rest := rfl
  rw [hwhole, hwhole, stripFrom_quote, stripFrom_enclosed (content_literal s).enclosed, hclose]

/-! ## Joining lines -/

/-- Lines are joined part by part, unless a line break lies across the border. -/
theorem joinLines_append (s : List Char) {t : List Char} (h : t.head? ≠ some '\n') :
    joinLines (s ++ t) = joinLines s ++ joinLines t := by
  fun_induction joinLines s with
  | case1 => rfl
  | case2 rest ih => rw [List.cons_append, List.cons_append, joinLines, ih, List.cons_append]
  | case3 c rest hbreak ih =>
    -- A line feed behind a carriage return comes from the rest of `s`, which is excluded here, or
    -- is the head of `t`.
    have hborder : ∀ more, c = '\r' → rest ++ t = '\n' :: more → False := by
      intro more hc happend
      cases rest with
      | nil =>
        rw [List.nil_append] at happend
        exact h (by rw [happend]; rfl)
      | cons d rest =>
        rw [List.cons_append] at happend
        obtain ⟨rfl, -⟩ := List.cons.inj happend
        exact hbreak rest hc rfl
    rw [List.cons_append, joinLines.eq_3 c (rest ++ t) hborder, ih, List.cons_append]

theorem joinLines_oneLine {s : List Char} (h : ∀ c ∈ s, c ≠ '\n' ∧ c ≠ '\r') (t : List Char) :
    joinLines (s ++ t) = s ++ joinLines t := by
  induction s with
  | nil => rfl
  | cons c s ih =>
    obtain ⟨hfeed, hreturn⟩ := h c List.mem_cons_self
    have hs := ih fun d hd => h d (List.mem_cons_of_mem c hd)
    rw [List.cons_append, joinLines.eq_3 c (s ++ t) (fun _ hc _ => hreturn hc), hs]
    simp [hfeed, hreturn]

theorem blank_joinLines {s : List Char} (h : Blank s) : Blank (joinLines s) := by
  fun_induction joinLines s with
  | case1 => exact h
  | case2 rest ih =>
    intro d hd
    rcases List.mem_cons.1 hd with rfl | hd
    · rfl
    · exact ih (fun e he => h e (List.mem_cons_of_mem _ (List.mem_cons_of_mem _ he))) d hd
  | case3 c rest _ ih =>
    intro d hd
    rcases List.mem_cons.1 hd with rfl | hd
    · split
      · rfl
      · exact h c List.mem_cons_self
    · exact ih (fun e he => h e (List.mem_cons_of_mem c he)) d hd

theorem oneLine_literal (s : List Char) : ∀ c ∈ literal s, c ≠ '\n' ∧ c ≠ '\r' := by
  intro c hc
  have hvisible := visible_of_mem_literal hc
  constructor
  · rintro rfl
    exact absurd hvisible (by decide)
  · rintro rfl
    exact absurd hvisible (by decide)

end Deskhand.Plan
