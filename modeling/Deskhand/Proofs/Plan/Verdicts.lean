/-
  Deskhand.Proofs.Plan.Verdicts

  What extraction may complain about.

  Whatever an answer is, the text that is read as JSON starts with the opening bracket that was
  located: it stands outside strings and comments, it is no line break, and the repair drops commas
  only. So what is read is an array, never a plan of the wrong kind. An answer can lack an array,
  its array can be malformed, and there can be nothing in it; nothing else is ever wrong with an
  answer.
-/

import Deskhand.Proofs.Plan.Lines

namespace Deskhand.Plan

open Deskhand.Json Deskhand.Text

/-! ## The bracket stays in front -/

theorem exists_eq_bracket_of_locateArray {s array : List Char} (h : locateArray s = some array) :
    ∃ rest, array = '[' :: rest := by
  unfold locateArray at h
  simp only at h
  split at h
  · cases h
  · next hne =>
    have harray := Option.some.inj h
    -- What ends at the last closing bracket is a prefix of what starts at the first opening one.
    have hprefix : array <+: s.dropWhile (· != '[') := by
      have hsuffix := List.dropWhile_suffix (l := (s.dropWhile (· != '[')).reverse) (· != ']')
      rw [← harray]
      simpa using List.reverse_prefix.2 hsuffix
    obtain ⟨c, rest, rfl⟩ := List.exists_cons_of_ne_nil fun hnil => hne (harray.trans hnil)
    obtain ⟨after, hafter⟩ := hprefix
    have hhead := List.head?_dropWhile_not (· != '[') s
    rw [← hafter] at hhead
    have hc : c = '[' := by simpa using hhead
    exact ⟨rest, by rw [hc]⟩

theorem exists_eq_bracket_of_cleanArray {s array : List Char} (h : cleanArray s = some array) :
    ∃ rest, array = '[' :: rest := by
  obtain ⟨located, hlocated, rfl⟩ := Option.map_eq_some_iff.1 h
  obtain ⟨rest, rfl⟩ := exists_eq_bracket_of_locateArray hlocated
  refine ⟨joinLines (stripFrom .outside rest), ?_⟩
  rw [stripComments, stripFrom_outside (by decide) (by decide)]
  simp [joinLines]

theorem dropTrailingCommas_bracket (rest : List Char) :
    dropTrailingCommas ('[' :: rest) = '[' :: dropTrailingCommas rest := rfl

/-! ## An array is read -/

theorem eq_array_of_readLeading {rest after : List Char} {value : Json}
    (h : readLeading ('[' :: rest) = .ok (value, after)) : ∃ items, value = .array items := by
  rw [readLeading, enoughFuel, readValue, skipSpace_cons (by decide)] at h
  -- An array takes a level, and there are some left.
  simp only [maxDepth] at h
  split at h
  · cases h
  · next items _ _ => exact ⟨items, (Prod.mk.inj (Except.ok.inj h)).1.symm⟩

theorem eq_array_of_parseChars {rest : List Char} {value : Json}
    (h : parseChars ('[' :: rest) = .ok value) : ∃ items, value = .array items := by
  unfold parseChars readDocument at h
  cases hread : readLeading ('[' :: rest) with
  | error fault => simp [hread] at h
  | ok result =>
    obtain ⟨first, after⟩ := result
    obtain ⟨items, rfl⟩ := eq_array_of_readLeading hread
    simp only [hread] at h
    split at h
    · next document hdocument =>
      split at hdocument
      · exact ⟨items, by rw [← Except.ok.inj h, ← Except.ok.inj hdocument]⟩
      · cases hdocument
    · cases h

/-- With or without its repair, a text that starts with a bracket is an array or malformed. -/
theorem readRepaired_bracket (rest : List Char) :
    (∃ items, readRepaired ('[' :: rest) = .ok (.array items)) ∨
      ∃ text, readRepaired ('[' :: rest) = .error (.malformed text) := by
  unfold readRepaired
  cases hfirst : parseChars ('[' :: rest) with
  | ok value =>
    obtain ⟨items, rfl⟩ := eq_array_of_parseChars hfirst
    exact .inl ⟨items, rfl⟩
  | error first =>
    -- Behind the bracket the repair goes on, and the second attempt is decided like the first.
    rw [dropTrailingCommas_bracket]
    cases hsecond : parseChars ('[' :: dropTrailingCommas rest) with
    | ok value =>
      obtain ⟨items, rfl⟩ := eq_array_of_parseChars hsecond
      exact .inl ⟨items, rfl⟩
    | error second => exact .inr ⟨_, rfl⟩

/-! ## The verdict -/

/-- What extraction may find wrong with an answer. -/
inductive Verdict : PlanError → Prop
  | noArray (text : String) : Verdict (.extraction text)
  | malformed (text : String) : Verdict (.malformed text)
  | nothing : Verdict .empty

/-- An answer holds a plan with at least one command, or extraction finds one of three things wrong
with it. -/
theorem extract_cases (answer : String) :
    (∃ plan, plan ≠ [] ∧ extract answer = .ok plan) ∨
      ∃ error, Verdict error ∧ extract answer = .error error := by
  unfold extract extractChars
  cases harray : cleanArray answer.toList with
  | none => exact .inr ⟨_, .noArray _, rfl⟩
  | some array =>
    obtain ⟨rest, rfl⟩ := exists_eq_bracket_of_cleanArray harray
    rcases readRepaired_bracket rest with ⟨items, hread⟩ | ⟨text, hread⟩
    · simp only [hread, ofJson]
      cases items with
      | nil => exact .inr ⟨_, .nothing, rfl⟩
      | cons item items => exact .inl ⟨_, List.cons_ne_nil _ _, rfl⟩
    · simp only [hread]
      exact .inr ⟨_, .malformed text, rfl⟩

/-- What is wrong with an answer is one of the three things. -/
theorem verdict_of_extract {answer : String} {error : PlanError}
    (h : extract answer = .error error) : Verdict error := by
  rcases extract_cases answer with ⟨plan, -, hplan⟩ | ⟨found, hfound, herror⟩
  · rw [hplan] at h
    cases h
  · rw [herror] at h
    exact Except.error.inj h ▸ hfound

end Deskhand.Plan
