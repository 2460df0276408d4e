/-
  Deskhand.Proofs.Text.LineEndings

  Line endings.

  A text with a carriage return before every line feed. Passes that do not look at line breaks do
  the same to it as to the text without: dropping characters, cutting at a target on one line, and
  substituting by a rule whose matches do not depend on the line endings.
-/

import Deskhand.Proofs.Text.Substitution

namespace Deskhand.Text

/-! ## Carriage returns -/

/-- The text with a carriage return before every line feed. -/
def withReturns (s : List Char) : List Char :=
  s.flatMap fun c => if c = '\n' then ['\r', '\n'] else [c]

@[simp] theorem withReturns_nil : withReturns [] = [] := rfl

theorem withReturns_lineFeed (s : List Char) :
    withReturns ('\n' :: s) = '\r' :: '\n' :: withReturns s := rfl

theorem withReturns_cons {c : Char} (h : c ≠ '\n') (s : List Char) :
    withReturns (c :: s) = c :: withReturns s := by
  simp [withReturns, h]

theorem withReturns_append (s t : List Char) :
    withReturns (s ++ t) = withReturns s ++ withReturns t :=
  List.flatMap_append

theorem withReturns_oneLine {s : List Char} (h : ∀ c ∈ s, c ≠ '\n' ∧ c ≠ '\r') :
    withReturns s = s := by
  induction s with
  | nil => rfl
  | cons c s ih =>
    have hs := ih fun d hd => h d (List.mem_cons_of_mem c hd)
    rw [withReturns_cons (h c List.mem_cons_self).1, hs]

theorem mem_withReturns {c : Char} (h : c ≠ '\r') (s : List Char) :
    c ∈ withReturns s ↔ c ∈ s := by
  induction s with
  | nil => rfl
  | cons d s ih =>
    by_cases hd : d = '\n'
    · subst hd
      simp [withReturns_lineFeed, h, ih]
    · simp [withReturns_cons hd, ih]

theorem withReturns_eq_nil_iff {s : List Char} : withReturns s = [] ↔ s = [] := by
  constructor
  · intro h
    cases s with
    | nil => rfl
    | cons c s =>
      by_cases hc : c = '\n'
      · subst hc
        cases h
      · rw [withReturns_cons hc] at h
        cases h
  · rintro rfl
    rfl

/-! ## Dropping -/

/-- Dropping characters does not see how each of them is written, if all characters of its writing
are dropped or none. -/
theorem dropWhile_flatMap {p : Char → Bool} {f : Char → List Char}
    (h : ∀ c, f c ≠ [] ∧ ∀ d ∈ f c, p d = p c) (s : List Char) :
    (s.flatMap f).dropWhile p = (s.dropWhile p).flatMap f := by
  induction s with
  | nil => rfl
  | cons c s ih =>
    obtain ⟨hne, hsame⟩ := h c
    -- The writing of a character is dropped as a whole or begins with what is kept.
    rw [List.flatMap_cons]
    by_cases hc : p c = true
    · have hdrop : ∀ d ∈ f c, p d = true := fun d hd => (hsame d hd).trans hc
      rw [List.dropWhile_append_of_pos hdrop, ih, List.dropWhile_cons_of_pos hc]
    · obtain ⟨d, more, hd⟩ := List.exists_cons_of_ne_nil hne
      have hkeep : ¬ p d = true := by
        rw [hsame d (by simp [hd])]
        exact hc
      rw [List.dropWhile_cons_of_neg hc, List.flatMap_cons, hd, List.cons_append,
        List.dropWhile_cons_of_neg hkeep]

theorem dropWhile_withReturns {p : Char → Bool} (h : p '\r' = p '\n') (s : List Char) :
    (withReturns s).dropWhile p = withReturns (s.dropWhile p) := by
  refine dropWhile_flatMap (fun c => ?_) s
  by_cases hc : c = '\n' <;> simp [hc, h]

/-- Dropping from the end, where both halves of a line ending are dropped or neither. -/
theorem reverse_dropWhile_withReturns {p : Char → Bool} (h : p '\r' = p '\n') (s : List Char) :
    ((withReturns s).reverse.dropWhile p).reverse =
      withReturns (s.reverse.dropWhile p).reverse := by
  have hdrop : ((withReturns s).reverse).dropWhile p =
      (s.reverse.dropWhile p).flatMap
        (List.reverse ∘ fun c => if c = '\n' then ['\r', '\n'] else [c]) := by
    -- From the end the two characters of an ending come in the other order.
    rw [withReturns, List.reverse_flatMap]
    refine dropWhile_flatMap (fun c => ?_) s.reverse
    by_cases hc : c = '\n' <;> simp [hc, h]
  rw [hdrop, List.reverse_flatMap, withReturns]
  simp [Function.comp_def]

/-! ## Cutting -/

theorem isPrefixOf_cons_of_ne {c d : Char} (h : d ≠ c) (target s : List Char) :
    (d :: target).isPrefixOf (c :: s) = false := by
  rw [List.isPrefixOf, beq_eq_false_iff_ne.2 h, Bool.false_and]

section

variable {target : List Char} (honeLine : ∀ c ∈ target, c ≠ '\n' ∧ c ≠ '\r')

include honeLine

/-- A target on one line stands at the front of a text whatever the line endings are. -/
theorem isPrefixOf_withReturns (s : List Char) :
    target.isPrefixOf (withReturns s) = target.isPrefixOf s := by
  induction target generalizing s with
  | nil => simp
  | cons d target ih =>
    obtain ⟨hfeed, hreturn⟩ := honeLine d List.mem_cons_self
    have htarget := ih fun c hc => honeLine c (List.mem_cons_of_mem d hc)
    cases s with
    | nil => rfl
    | cons c s =>
      -- Neither half of a line ending begins the target.
      by_cases hc : c = '\n'
      · subst hc
        rw [withReturns_lineFeed, isPrefixOf_cons_of_ne hreturn, isPrefixOf_cons_of_ne hfeed]
      · simp [withReturns_cons hc, List.isPrefixOf, htarget]

/-- A text is cut at a target on one line whatever the line endings are. -/
theorem cutAt_withReturns (hne : target ≠ []) (s : List Char) :
    cutAt target (withReturns s) =
      (cutAt target s).map fun (before, after) => (withReturns before, withReturns after) := by
  induction s with
  | nil => simp [cutAt, hne]
  | cons c s ih =>
    have hprefix := isPrefixOf_withReturns honeLine (c :: s)
    obtain ⟨d, more, rfl⟩ := List.exists_cons_of_ne_nil hne
    obtain ⟨hfeed, hreturn⟩ := honeLine d List.mem_cons_self
    by_cases hc : c = '\n'
    · -- The target starts with neither half of a line ending.
      subst hc
      rw [withReturns_lineFeed, cutAt, cutAt, cutAt, ih, isPrefixOf_cons_of_ne hreturn,
        isPrefixOf_cons_of_ne hfeed, isPrefixOf_cons_of_ne hfeed]
      simp [Function.comp_def, withReturns_lineFeed]
    · rw [withReturns_cons hc] at hprefix ⊢
      rw [cutAt, cutAt, hprefix, ih]
      split
      · next htarget =>
        -- The cut is here, and the target has the same length in both texts.
        obtain ⟨rest, hrest⟩ := List.isPrefixOf_iff_prefix.1 htarget
        have hreturns := congrArg withReturns hrest
        rw [withReturns_append, withReturns_oneLine honeLine, withReturns_cons hc] at hreturns
        rw [← hrest, ← hreturns, Option.map_some, List.drop_left, List.drop_left]
        rfl
      · simp [Function.comp_def, withReturns_cons hc]

end

/-! ## Substituting -/

/-- A rule whose matches do not depend on the line endings: none starts at a line feed, and what is
matched and written may have carriage returns or not. -/
structure LineBlind (rule : Rule) : Prop where
  lineFeed : ∀ rest, rule ('\n' :: rest) = none
  unmatched : ∀ {s}, rule s = none → rule (withReturns s) = none
  matched : ∀ {s text used}, rule s = some (text, used) →
    ∃ part rest, s = part ++ rest ∧ part ≠ [] ∧ used = part.length ∧
      rule (withReturns s) = some (withReturns text, (withReturns part).length)

/-- Substituting by such a rule does the same whatever the line endings are. -/
theorem LineBlind.substitute_withReturns {rule : Rule} (h : LineBlind rule) (s : List Char) :
    substitute rule (withReturns s) = withReturns (substitute rule s) := by
  -- The induction is on the length, since a match uses up many characters at once.
  induction hlength : s.length using Nat.strongRecOn generalizing s with
  | ind n ih =>
    subst hlength
    cases hrule : rule s with
    | some found =>
      obtain ⟨text, used⟩ := found
      obtain ⟨part, rest, rfl, hpart, rfl, hreturns⟩ := h.matched hrule
      have hshorter : rest.length < (part ++ rest).length := by
        have hpos := List.length_pos_iff.2 hpart
        rw [List.length_append]
        omega
      have hne : withReturns part ≠ [] := fun heq => hpart (withReturns_eq_nil_iff.1 heq)
      rw [withReturns_append] at hreturns
      rw [substitute_of_match hpart hrule, withReturns_append, substitute_of_match hne hreturns,
        ih _ hshorter rest rfl, withReturns_append]
    | none =>
      cases s with
      | nil => rfl
      | cons c rest =>
        have hrest := ih _ (Nat.lt_succ_self _) rest rfl
        have hnone := h.unmatched hrule
        rw [substitute_cons hrule]
        by_cases hc : c = '\n'
        · -- The carriage return is copied by itself, and the line feed behind it too.
          subst hc
          rw [withReturns_lineFeed] at hnone ⊢
          rw [substitute_cons hnone, substitute_cons (h.lineFeed _), hrest, withReturns_lineFeed]
        · rw [withReturns_cons hc] at hnone ⊢
          rw [substitute_cons hnone, hrest, withReturns_cons hc]

theorem lineBlind_replaceRule {target : List Char}
    (honeLine : ∀ c ∈ target, c ≠ '\n' ∧ c ≠ '\r') (hne : target ≠ []) :
    LineBlind (replaceRule target []) where
  lineFeed rest := by
    obtain ⟨d, more, rfl⟩ := List.exists_cons_of_ne_nil hne
    rw [replaceRule, isPrefixOf_cons_of_ne (honeLine d List.mem_cons_self).1]
    rfl
  unmatched {s} h := by
    rw [replaceRule, isPrefixOf_withReturns honeLine]
    exact h
  matched {s text used} h := by
    rw [replaceRule] at h
    split at h
    · next htarget =>
      simp only [Option.some.injEq, Prod.mk.injEq] at h
      obtain ⟨rfl, rfl⟩ := h
      obtain ⟨rest, hrest⟩ := List.isPrefixOf_iff_prefix.1 htarget
      refine ⟨target, rest, hrest.symm, hne, rfl, ?_⟩
      rw [replaceRule, isPrefixOf_withReturns honeLine, if_pos htarget,
        withReturns_oneLine honeLine, withReturns_nil]
    · cases h

end Deskhand.Text
