/-
  Deskhand.Proofs.Plan.Outcomes

  When extraction finds what.

  Each verdict of extraction, said about the text itself. No array is found if no opening bracket
  has a closing one behind it, and only then. There is nothing in the array if what is read is a
  pair of brackets with spaces inside and around them, as it stands or once its trailing commas are
  gone. The two attempts at reading do not get in each other's way: an array that holds an item
  still holds one when it has been repaired.
-/

import Deskhand.Proofs.Json.TrailingCommas
import Deskhand.Proofs.Plan.Fences
import Deskhand.Proofs.Plan.Verdicts
import Mathlib.Data.List.TakeWhile

namespace Deskhand

open Deskhand.Text

/-! ## The empty array -/

namespace Json

/-- A pair of brackets with nothing but spaces inside and around them. -/
def IsEmptyArray (s : List Char) : Prop :=
  ∃ before inside after, Blank before ∧ Blank inside ∧ Blank after ∧
    s = before ++ '[' :: (inside ++ ']' :: after)

theorem parseChars_eq_emptyArray_iff (s : List Char) :
    parseChars s = .ok (.array []) ↔ IsEmptyArray s := by
  constructor
  · intro h
    -- Of the texts of the grammar only a pair of brackets denotes the empty array.
    obtain ⟨before, text, after, hbefore, hafter, rfl, hdenotes⟩ := exists_denotes_of_parseChars h
    generalize hvalue : Json.array [] = value at hdenotes
    cases hdenotes with
    | @emptyArray _ inside blank => exact ⟨before, inside, after, hbefore, blank, hafter, by simp⟩
    | _ => cases hvalue
  · rintro ⟨before, inside, after, hbefore, hinside, hafter, rfl⟩
    have hdenotes : Denotes maxDepth ('[' :: (inside ++ [']'])) (.array []) := .emptyArray hinside
    have hparse := hdenotes.parseChars hbefore hafter
    rwa [List.cons_append, List.append_assoc, List.singleton_append] at hparse

/-- The text of the first item stays in front of the others when trailing commas are dropped, so no
closing bracket comes to stand behind the opening one. -/
theorem not_isEmptyArray_repaired {levels : Nat} {first : Spelled} {others : List Spelled}
    {before after : List Char} (hbefore : Blank before) (hframed : first.Framed)
    (hdenotes : Denotes levels first.text first.value) :
    ¬ IsEmptyArray (dropTrailingCommas (before ++ (arrayText first others [] ++ after))) := by
  obtain ⟨value, hrepaired⟩ := hdenotes.exists_repaired
  have hitem := hframed.repaired hdenotes hrepaired
  obtain ⟨c, more, htext, hspace, hcloser⟩ := hitem.denotes.opens
  rw [dropTrailingCommas_append_of_notMem hbefore.notMem_comma, arrayText_append, arrayText,
    dropTrailingCommas_cons (by decide), hitem.chars, Spelled.chars, htext]
  rintro ⟨before', inside, after', hbefore', hinside, -, heq⟩
  -- Both texts begin with a bracket, and behind it with the first character that is no space.
  have hbehind := congrArg skipSpace heq
  rw [skipSpace_append hbefore, skipSpace_cons (by decide), skipSpace_append hbefore',
    skipSpace_cons (by decide)] at hbehind
  have hinner := congrArg skipSpace (List.cons.inj hbehind).2
  simp only [List.append_assoc, List.cons_append] at hinner
  rw [skipSpace_append hframed.before, skipSpace_cons hspace, skipSpace_append hinside,
    skipSpace_cons (by decide)] at hinner
  exact hcloser (List.cons.inj hinner).1

/-- What is empty when trailing commas are dropped has been empty if it is an array at all. -/
theorem eq_nil_of_repaired {s : List Char} {items : List Json}
    (h : parseChars s = .ok (.array items)) (hempty : IsEmptyArray (dropTrailingCommas s)) :
    items = [] := by
  obtain ⟨before, text, after, hbefore, -, rfl, hdenotes⟩ := exists_denotes_of_parseChars h
  generalize hvalue : Json.array items = value at hdenotes
  cases hdenotes with
  | emptyArray => exact Json.array.inj hvalue
  | @array _ first others framed denotes =>
    exact absurd hempty (not_isEmptyArray_repaired hbefore (framed first List.mem_cons_self)
      (denotes first List.mem_cons_self))
  | _ => cases hvalue

end Json

namespace Plan

open Deskhand.Json

/-! ## The located text -/

/-- What is located begins at the first opening bracket and ends at the last closing one. -/
theorem locateArray_eq_some_iff (s array : List Char) :
    locateArray s = some array ↔
      ∃ before interior after, '[' ∉ before ∧ ']' ∉ after ∧ array = '[' :: (interior ++ [']']) ∧
        s = before ++ (array ++ after) := by
  constructor
  · intro h
    obtain ⟨rest, hbracket⟩ := exists_eq_bracket_of_locateArray h
    unfold locateArray at h
    simp only at h
    split at h
    · cases h
    next hne =>
    have harray := Option.some.inj h
    have hreverse : (s.dropWhile (· != '[')).reverse.dropWhile (· != ']') = array.reverse := by
      rw [← harray, List.reverse_reverse]
    -- The last character of the array is where the scan from the end has stopped.
    obtain ⟨interior, hclose⟩ : ∃ interior, array = '[' :: (interior ++ [']']) := by
      have hlast := List.head?_dropWhile_not (· != ']') (s.dropWhile (· != '[')).reverse
      rw [hreverse, hbracket] at hlast
      rcases List.eq_nil_or_concat rest with rfl | ⟨interior, c, rfl⟩
      · simp at hlast
      · have hc : c = ']' := by simpa using hlast
        exact ⟨interior, by rw [hbracket, hc, List.concat_eq_append]⟩
    -- The parts in front of the array and behind it are what the two scans have dropped.
    refine ⟨s.takeWhile (· != '['), interior,
      ((s.dropWhile (· != '[')).reverse.takeWhile (· != ']')).reverse, ?_, ?_, hclose, ?_⟩
    · intro hmem
      simpa using List.mem_takeWhile_imp hmem
    · intro hmem
      simpa using List.mem_takeWhile_imp (List.mem_reverse.1 hmem)
    · rw [← harray, ← List.reverse_append, List.takeWhile_append_dropWhile, List.reverse_reverse,
        List.takeWhile_append_dropWhile]
  · rintro ⟨before, interior, after, hbefore, hafter, rfl, rfl⟩
    exact locateArray_append hbefore hafter interior

/-- Nothing is located if no opening bracket has a closing one behind it, and only then. -/
theorem locateArray_eq_none_iff (s : List Char) :
    locateArray s = none ↔
      ¬ ∃ before inside after, s = before ++ '[' :: (inside ++ ']' :: after) := by
  constructor
  · rintro h ⟨before, inside, after, rfl⟩
    -- The first opening bracket is this one or stands in front of it.
    have hmem : ']' ∈ (before ++ '[' :: (inside ++ ']' :: after)).dropWhile (· != '[') := by
      rw [dropWhile_append_cons (by decide)]
      simp
    unfold locateArray at h
    simp only at h
    split at h
    -- Dropping everything would have dropped the closing bracket.
    · next hnil =>
      have hall := List.dropWhile_eq_nil_iff.1 (List.reverse_eq_nil_iff.1 hnil)
      simpa using hall ']' (List.mem_reverse.2 hmem)
    · cases h
  · intro h
    cases hlocated : locateArray s with
    | none => rfl
    | some array =>
      obtain ⟨before, interior, after, -, -, rfl, hs⟩ :=
        (locateArray_eq_some_iff s array).1 hlocated
      exact absurd ⟨before, interior, after, by rw [hs]; simp⟩ h

/-! ## The two attempts -/

/-- Behind a bracket the empty array is read if the text is one or becomes one. -/
theorem readRepaired_eq_emptyArray_iff (rest : List Char) :
    readRepaired ('[' :: rest) = .ok (.array []) ↔
      IsEmptyArray ('[' :: rest) ∨ IsEmptyArray (dropTrailingCommas ('[' :: rest)) := by
  rw [← parseChars_eq_emptyArray_iff, ← parseChars_eq_emptyArray_iff, readRepaired]
  cases hfirst : parseChars ('[' :: rest) with
  | ok value =>
    obtain ⟨items, rfl⟩ := eq_array_of_parseChars hfirst
    -- There is no second attempt, and it would find no array empty that was not so before.
    refine ⟨fun h => .inl (by rw [Except.ok.inj h]), ?_⟩
    rintro (h | h)
    · rw [Except.ok.inj h]
    · rw [eq_nil_of_repaired hfirst ((parseChars_eq_emptyArray_iff _).1 h)]
  | error first =>
    cases hsecond : parseChars (dropTrailingCommas ('[' :: rest)) with
    | ok value => simp
    | error second => simp

/-! ## The verdicts -/

theorem extract_eq_extraction_iff (answer : String) :
    (∃ text, extract answer = .error (.extraction text)) ↔
      locateArray (stripFences answer.toList) = none := by
  -- Whatever is read behind a bracket is an array or a malformed one.
  rw [extract, extractChars]
  cases hlocated : locateArray (stripFences answer.toList) with
  | none => simp [cleanArray, hlocated]
  | some located =>
    have hclean : cleanArray answer.toList = some (joinLines (stripComments located)) := by
      rw [cleanArray, hlocated, Option.map_some]
    obtain ⟨rest, hbracket⟩ := exists_eq_bracket_of_cleanArray hclean
    rw [hclean, hbracket]
    rcases readRepaired_bracket rest with ⟨items, hread⟩ | ⟨text, hread⟩
    · cases items <;> simp [hread, ofJson]
    · simp [hread]

theorem extract_eq_empty_iff (answer : String) :
    extract answer = .error .empty ↔
      ∃ array, cleanArray answer.toList = some array ∧
        (IsEmptyArray array ∨ IsEmptyArray (dropTrailingCommas array)) := by
  rw [extract, extractChars]
  cases hclean : cleanArray answer.toList with
  | none => simp
  | some array =>
    obtain ⟨rest, rfl⟩ := exists_eq_bracket_of_cleanArray hclean
    simp only [Option.some.injEq, exists_eq_left', ← readRepaired_eq_emptyArray_iff]
    -- Of the arrays that are read only the empty one is refused as empty.
    rcases readRepaired_bracket rest with ⟨items, hread⟩ | ⟨text, hread⟩
    · cases items <;> simp [hread, ofJson]
    · simp [hread]

/-- **What extraction answers.** Whatever an answer is, extraction gives a plan with at least one
command, or finds that there is no array, that the array is malformed, or that there is nothing in
it. It finds no array exactly if, fences aside, no opening bracket has a closing one behind it. It
finds nothing in the array exactly if the text from the first opening bracket to the last closing
one is the empty array, without its comments and its line breaks, or becomes it without its trailing
commas. -/
theorem extract_outcome (answer : String) :
    ((∃ plan, plan ≠ [] ∧ extract answer = .ok plan) ∨
        ∃ error, Verdict error ∧ extract answer = .error error) ∧
      ((∃ text, extract answer = .error (.extraction text)) ↔
        ¬ ∃ before inside after,
          stripFences answer.toList = before ++ '[' :: (inside ++ ']' :: after)) ∧
      (extract answer = .error .empty ↔
        ∃ before interior after, '[' ∉ before ∧ ']' ∉ after ∧
          stripFences answer.toList = before ++ ('[' :: (interior ++ [']']) ++ after) ∧
          let cleaned := joinLines (stripComments ('[' :: (interior ++ [']'])))
          IsEmptyArray cleaned ∨ IsEmptyArray (dropTrailingCommas cleaned)) := by
  refine ⟨extract_cases answer, ?_, ?_⟩
  · rw [extract_eq_extraction_iff, locateArray_eq_none_iff]
  · rw [extract_eq_empty_iff]
    constructor
    · rintro ⟨array, hclean, hempty⟩
      obtain ⟨located, hlocated, rfl⟩ := Option.map_eq_some_iff.1 hclean
      obtain ⟨before, interior, after, hbefore, hafter, rfl, hs⟩ :=
        (locateArray_eq_some_iff _ _).1 hlocated
      exact ⟨before, interior, after, hbefore, hafter, hs, hempty⟩
    · rintro ⟨before, interior, after, hbefore, hafter, hs, hempty⟩
      refine ⟨_, ?_, hempty⟩
      rw [cleanArray, hs, locateArray_append hbefore hafter, Option.map_some]

end Plan

end Deskhand
