/-
  Deskhand.Proofs.Text.Substitution

  Substitution in parts.

  A substituting pass over a text that is put together from parts: a part on which the rule cannot
  start is copied, and a part that the rule matches is replaced, whatever comes after either of
  them. A target that starts with a character that a part does not have can be found nowhere in it.
  A pass that can only match where a target stands leaves a text without that target as it is.
-/

import Deskhand.Text.Search

namespace Deskhand.Text

/-! ## Where a target stands -/

theorem infix_of_infix_cons {target rest : List Char} {c : Char} (hc : c ∉ target)
    (h : target <:+: c :: rest) : target <:+: rest := by
  rcases List.infix_cons_iff.1 h with hprefix | hinfix
  -- At the front the character would be the first of the target.
  · cases target with
    | nil => exact List.nil_infix
    | cons d target =>
      obtain ⟨rfl, -⟩ := List.cons_prefix_cons.1 hprefix
      exact absurd List.mem_cons_self hc
  · exact hinfix

/-- A text is not found across characters that it does not have. -/
theorem infix_of_infix_append {target used rest : List Char} (hused : ∀ c ∈ used, c ∉ target)
    (h : target <:+: used ++ rest) : target <:+: rest := by
  induction used with
  | nil => exact h
  | cons c used ih =>
    have hrest := infix_of_infix_cons (hused c List.mem_cons_self) h
    exact ih (fun d hd => hused d (List.mem_cons_of_mem c hd)) hrest

/-! ## Substituting -/

/-- Characters that a match has used up are skipped. -/
theorem substituteFrom_append (rule : Rule) (used rest : List Char) :
    substituteFrom rule used.length (used ++ rest) = substitute rule rest := by
  induction used with
  | nil => rfl
  | cons c used ih =>
    rw [List.length_cons, List.cons_append, substituteFrom]
    exact ih

theorem substitute_of_match {rule : Rule} {part rest text : List Char} (hpart : part ≠ [])
    (h : rule (part ++ rest) = some (text, part.length)) :
    substitute rule (part ++ rest) = text ++ substitute rule rest := by
  obtain ⟨c, used, rfl⟩ := List.exists_cons_of_ne_nil hpart
  have hskip := substituteFrom_append rule used rest
  rw [List.cons_append] at h ⊢
  show substituteFrom rule 0 (c :: (used ++ rest)) = _
  simp only [substituteFrom, h, List.length_cons, Nat.add_sub_cancel, hskip]

theorem substitute_cons {rule : Rule} {c : Char} {rest : List Char}
    (h : rule (c :: rest) = none) : substitute rule (c :: rest) = c :: substitute rule rest := by
  show substituteFrom rule 0 (c :: rest) = _
  rw [substituteFrom, h]
  rfl

/-- A pass keeps what holds of all characters of a text, if its rule does. -/
theorem forall_mem_substituteFrom {rule : Rule} {P : Char → Prop}
    (hrule : ∀ {s text : List Char} {used : Nat}, rule s = some (text, used) →
      (∀ c ∈ s, P c) → ∀ c ∈ text, P c)
    {skip : Nat} {s : List Char} (hs : ∀ c ∈ s, P c) : ∀ c ∈ substituteFrom rule skip s, P c := by
  induction s generalizing skip with
  | nil => simp
  | cons d rest ih =>
    have hrest : ∀ c ∈ rest, P c := fun c hc => hs c (List.mem_cons_of_mem d hc)
    cases skip with
    | succ skip => exact ih hrest
    | zero =>
      rw [substituteFrom]
      split
      · next text used hmatch =>
        exact List.forall_mem_append.2 ⟨hrule hmatch hs, ih hrest⟩
      · exact List.forall_mem_cons.2 ⟨hs d List.mem_cons_self, ih hrest⟩

/-- A pass brings in no characters if its rule writes none that are not there. -/
theorem mem_of_mem_substituteFrom {rule : Rule}
    (hrule : ∀ {s text : List Char} {used : Nat}, rule s = some (text, used) → ∀ c ∈ text, c ∈ s)
    {skip : Nat} {s : List Char} {c : Char} (h : c ∈ substituteFrom rule skip s) : c ∈ s :=
  forall_mem_substituteFrom (P := fun d => d ∈ s)
    (fun hmatch hmem d hd => hmem d (hrule hmatch d hd)) (fun _ hd => hd) c h

theorem substitute_append {rule : Rule} {before : List Char}
    (h : ∀ c ∈ before, ∀ s, rule (c :: s) = none) (rest : List Char) :
    substitute rule (before ++ rest) = before ++ substitute rule rest := by
  induction before with
  | nil => rfl
  | cons c before ih =>
    have hc : rule (c :: (before ++ rest)) = none := h c List.mem_cons_self _
    have hbefore := ih fun d hd => h d (List.mem_cons_of_mem c hd)
    rw [List.cons_append, substitute_cons hc, hbefore, List.cons_append]

/-- A text without the first character of the target stays as it is. -/
theorem replaceAll_of_not_mem {first : Char} {s : List Char} (h : first ∉ s)
    (target replacement : List Char) : replaceAll (first :: target) replacement s = s := by
  have hnone : ∀ c ∈ s, ∀ rest, replaceRule (first :: target) replacement (c :: rest) = none := by
    intro c hc rest
    have hne : first ≠ c := fun heq => h (heq ▸ hc)
    simp [replaceRule, hne]
  have hcopy := substitute_append hnone []
  rw [List.append_nil] at hcopy
  show substitute _ s = s
  rw [hcopy]
  exact List.append_nil s

theorem substitute_of_not_infix {rule : Rule} {target : List Char}
    (hrule : ∀ t, ¬ target <+: t → rule t = none) {s : List Char} (h : ¬ target <:+: s) :
    substitute rule s = s := by
  induction s with
  | nil => rfl
  | cons c rest ih =>
    have hhere : ¬ target <+: c :: rest := fun hprefix => h hprefix.isInfix
    have hlater : ¬ target <:+: rest := fun hinfix => h (List.infix_cons hinfix)
    rw [substitute_cons (hrule (c :: rest) hhere), ih hlater]

/-- Nothing is replaced in a text without the target. -/
theorem replaceAll_of_not_infix {target s : List Char} (h : ¬ target <:+: s)
    (replacement : List Char) : replaceAll target replacement s = s := by
  refine substitute_of_not_infix (fun t ht => ?_) h
  simp [replaceRule, ht]

/-! ## Cutting -/

/-- A text is some characters of a class and a rest that does not begin with one. -/
theorem exists_append_of_class (p : Char → Bool) (s : List Char) :
    ∃ front rest, s = front ++ rest ∧ (∀ c ∈ front, p c = true) ∧
      ∀ c ∈ rest.head?, p c = false := by
  refine ⟨s.takeWhile p, s.dropWhile p, List.takeWhile_append_dropWhile.symm,
    List.all_eq_true.1 List.all_takeWhile, ?_⟩
  intro c hc
  have hhead := List.head?_dropWhile_not p s
  rw [Option.mem_def.1 hc] at hhead
  simpa using hhead

theorem dropWhile_append_cons {p : Char → Bool} {c : Char} (h : p c = false) (s rest : List Char) :
    (s ++ c :: rest).dropWhile p = s.dropWhile p ++ c :: rest := by
  rw [List.dropWhile_append]
  split
  -- Everything before the character is dropped.
  · next hempty =>
    rw [List.isEmpty_iff.1 hempty, List.dropWhile_cons_of_neg (by simp [h])]
    rfl
  · rfl

/-- The first occurrence of a target is found behind a text without its first character. -/
theorem cutAt_append {first : Char} {before : List Char} (h : first ∉ before)
    (target after : List Char) :
    cutAt (first :: target) (before ++ (first :: target ++ after)) = some (before, after) := by
  induction before with
  | nil => simp [cutAt]
  | cons c before ih =>
    have hne : first ≠ c := fun heq => h (heq ▸ List.mem_cons_self)
    have hbefore := ih fun hmem => h (List.mem_cons_of_mem c hmem)
    rw [List.cons_append, cutAt, hbefore]
    simp [hne]

/-! ## Joining -/

/-- Joined parts are the first one and, each behind a separator, the others. -/
theorem intercalate_cons (separator first : List Char) (others : List (List Char)) :
    List.intercalate separator (first :: others) =
      first ++ others.flatMap fun part => separator ++ part := by
  induction others generalizing first with
  | nil => simp
  | cons second others ih =>
    rw [List.intercalate_cons_cons, ih, List.flatMap_cons, List.append_assoc, List.append_assoc]

end Deskhand.Text
