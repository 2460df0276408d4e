/-
  Deskhand.Proofs.Plan.BacktickRuns

  Runs of backticks.

  Blocks are taken out of a text before its single fences are deleted, so whatever stood on the two
  sides of a block may meet there and form a new fence. The deletion comes last and sees the runs of
  backticks as they are by then: it takes three backticks at a time from the front of a run and
  leaves those that are too few for a fence. What stands around a run is no backtick, so nothing new
  is formed where a whole run goes.
-/

import Deskhand.Proofs.Plan.Compact

namespace Deskhand.Plan

open Deskhand.Text

/-- A run of backticks goes as far as it can: what follows it does not begin with one. -/
def EndsRun (s : List Char) : Prop := ∀ c ∈ s.head?, c ≠ '\x60'

/-- Every text is a run of backticks, perhaps an empty one, and what follows it. -/
theorem exists_run_append (s : List Char) :
    ∃ length rest, s = List.replicate length '\x60' ++ rest ∧ EndsRun rest := by
  induction s with
  | nil => exact ⟨0, [], rfl, nofun⟩
  | cons c s ih =>
    by_cases hc : c = '\x60'
    · obtain ⟨length, rest, rfl, hrest⟩ := ih
      exact ⟨length + 1, rest, by rw [hc, List.replicate_succ, List.cons_append], hrest⟩
    · exact ⟨0, c :: s, rfl, fun d hd => by rwa [← Option.some.inj hd]⟩

theorem le_of_replicate_prefix (count length : Nat) {rest : List Char} (hrest : EndsRun rest)
    (h : List.replicate count '\x60' <+: List.replicate length '\x60' ++ rest) :
    count ≤ length := by
  induction count generalizing length with
  | zero => exact Nat.zero_le length
  | succ count ih =>
    -- Either the run is used up, or one backtick more is taken from both.
    cases length with
    | zero =>
      cases rest with
      | nil => exact absurd h.length_le (by simp)
      | cons c rest => exact absurd (List.cons_prefix_cons.1 h).1.symm (hrest c rfl)
    | succ length => exact Nat.succ_le_succ (ih length (List.cons_prefix_cons.1 h).2)

/-- A run that is too short for a fence holds no part of one. -/
theorem fence_infix_of_run {length : Nat} (hlength : length < 3) {rest : List Char}
    (hrest : EndsRun rest) (h : fence <:+: List.replicate length '\x60' ++ rest) :
    fence <:+: rest := by
  induction length with
  | zero => exact h
  | succ length ih =>
    rcases List.infix_cons_iff.1 h with hprefix | hinfix
    · have hle := le_of_replicate_prefix 3 (length + 1) hrest hprefix
      omega
    · exact ih (by omega) hinfix

/-! ## Deleting fences -/

theorem replaceAll_fence_append (rest : List Char) :
    replaceAll fence [] (fence ++ rest) = replaceAll fence [] rest := by
  have hmatch : replaceRule fence [] (fence ++ rest) = some ([], fence.length) := by
    simp [replaceRule]
  exact substitute_of_match (by decide) hmatch

theorem replaceAll_fence_cons {c : Char} (hc : c ≠ '\x60') (rest : List Char) :
    replaceAll fence [] (c :: rest) = c :: replaceAll fence [] rest :=
  substitute_cons (by simp [replaceRule, fence, Ne.symm hc])

/-- What follows a run still does so when the fences in it are deleted. -/
theorem EndsRun.replaceAll_fence {rest : List Char} (h : EndsRun rest) :
    EndsRun (replaceAll fence [] rest) := by
  cases rest with
  | nil => exact h
  | cons c rest =>
    rw [replaceAll_fence_cons (h c rfl)]
    exact h

theorem replaceAll_fence_short {length : Nat} (hlength : length < 3) {rest : List Char}
    (hrest : EndsRun rest) :
    replaceAll fence [] (List.replicate length '\x60' ++ rest) =
      List.replicate length '\x60' ++ replaceAll fence [] rest := by
  induction length with
  | zero => rfl
  | succ length ih =>
    -- Not even the backticks at the front are enough for a fence.
    have hprefix : ¬ fence <+: '\x60' :: (List.replicate length '\x60' ++ rest) := fun h => by
      have hle := le_of_replicate_prefix 3 (length + 1) hrest h
      omega
    have hnone : replaceRule fence [] ('\x60' :: (List.replicate length '\x60' ++ rest)) =
        none := by simp [replaceRule, hprefix]
    rw [List.replicate_succ, List.cons_append, replaceAll, substitute_cons hnone]
    exact congrArg ('\x60' :: ·) (ih (by omega))

/-- Of a run those backticks are left that are too few for a fence. -/
theorem replaceAll_fence_run (length : Nat) {rest : List Char} (hrest : EndsRun rest) :
    replaceAll fence [] (List.replicate length '\x60' ++ rest) =
      List.replicate (length % 3) '\x60' ++ replaceAll fence [] rest := by
  induction length using Nat.strongRecOn with
  | ind length ih =>
    by_cases hlength : length < 3
    · rw [Nat.mod_eq_of_lt hlength]
      exact replaceAll_fence_short hlength hrest
    · -- The fence at the front goes, and the rest of the run is as long modulo three.
      obtain ⟨fewer, rfl⟩ : ∃ fewer, length = 3 + fewer := ⟨length - 3, by omega⟩
      have hfront : List.replicate (3 + fewer) '\x60' = fence ++ List.replicate fewer '\x60' :=
        List.replicate_append_replicate.symm
      rw [hfront, List.append_assoc, replaceAll_fence_append, ih fewer (by omega),
        Nat.add_mod_left]

/-- No fence is left once the fences are deleted. -/
theorem not_fence_infix_replaceAll (s : List Char) : ¬ fence <:+: replaceAll fence [] s := by
  induction hn : s.length using Nat.strongRecOn generalizing s with
  | ind n ih =>
    subst hn
    obtain ⟨length, rest, rfl, hrest⟩ := exists_run_append s
    intro hinfix
    -- At most two backticks are left of the first run.
    rw [replaceAll_fence_run length hrest] at hinfix
    have hbehind := fence_infix_of_run (Nat.mod_lt length (by decide)) hrest.replaceAll_fence hinfix
    -- Behind the run stands a character that no fence goes across.
    cases rest with
    | nil => exact absurd hbehind.length_le (by decide)
    | cons c rest =>
      rw [replaceAll_fence_cons (hrest c rfl)] at hbehind
      have hlater := infix_of_infix_cons
        (show c ∉ fence by simpa [fence] using hrest c rfl) hbehind
      have hshorter : rest.length < (List.replicate length '\x60' ++ c :: rest).length := by
        simp only [List.length_append, List.length_cons]
        omega
      exact ih rest.length hshorter rest rfl hlater

/-- **No fence is left.** However its backticks and blocks are arranged, a text has no three
backticks in a row once its fences are stripped, so stripping them again changes nothing. The texts
without three backticks in a row are just those that are left as they are. -/
theorem stripFences_leaves_none (s : List Char) :
    ¬ fence <:+: stripFences s ∧ stripFences (stripFences s) = stripFences s ∧
      (stripFences s = s ↔ ¬ fence <:+: s) := by
  have hnone : ∀ text, ¬ fence <:+: stripFences text := fun text =>
    not_fence_infix_replaceAll (substitute fencedBlock text)
  refine ⟨hnone s, stripFences_of_not_infix (hnone s), ?_, stripFences_of_not_infix⟩
  intro hsame
  rw [← hsame]
  exact hnone s

end Deskhand.Plan
