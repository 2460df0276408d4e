/-
  Deskhand.Proofs.Plan.Compact

  A plan that is nothing but an array.

  An answer that is the compact JSON text of a plan passes every layer of extraction unchanged, with
  one exception. Brackets, slashes and line breaks in its commands do no harm: the outermost
  brackets are those of the array, the comment scan steps over literals, and a literal lies on one
  line. The fence pass alone does not know about literals, so three backticks in a row are taken for
  a fence wherever they stand.
-/

import Deskhand.Proofs.Json.RoundTrip
import Deskhand.Proofs.Plan.Fences
import Deskhand.Proofs.Plan.Lines

namespace Deskhand.Plan

open Deskhand.Json Deskhand.Text

/-! ## The compact text -/

/-- A command as an item of a compact array. -/
def compactItem (command : String) : Spelled := ⟨[], literal command.toList, [], .string command⟩

theorem bare_string (command : String) : bare (.string command) = compactItem command := by
  simp [bare, compactItem, compactChars]

/-- The commands of a plan as the items of a compact array, and what stands behind them. -/
def commandsText (first : String) (others : List String) (rest : List Char) : List Char :=
  openArray (compactItem first) (others.map compactItem) rest

/-- The compact text of a plan is an array whose items are literals without any space. -/
theorem compactChars_toJson (first : String) (others : List String) :
    compactChars (toJson (first :: others)) = commandsText first others [']'] := by
  have htext := compactChars_array_append (.string first) (others.map .string) []
  rw [List.append_nil, List.map_map, bare_string, show bare ∘ Json.string = compactItem from
    funext bare_string] at htext
  exact htext

/-- The commands are literals with a comma between each two. -/
theorem commandsText_eq (first : String) (others : List String) (rest : List Char) :
    commandsText first others rest = '[' :: (literal first.toList ++
      ((others.flatMap fun command => ',' :: literal command.toList) ++ rest)) := by
  simp [commandsText, openArray, compactItem, Spelled.chars, List.flatMap_map]

/-! ## The passes -/

theorem stripFrom_commas (others : List String) (rest : List Char) :
    stripFrom .outside ((others.flatMap fun command => ',' :: literal command.toList) ++ rest) =
      (others.flatMap fun command => ',' :: literal command.toList) ++ stripFrom .outside rest := by
  induction others with
  | nil => rfl
  | cons command others ih =>
    rw [List.flatMap_cons, List.append_assoc, List.cons_append,
      stripFrom_outside (by decide) (by decide), stripFrom_literal, ih]
    simp

theorem stripComments_commands (first : String) (others : List String) (rest : List Char) :
    stripComments (commandsText first others rest) =
      commandsText first others (stripFrom .outside rest) := by
  rw [stripComments, commandsText_eq, stripFrom_outside (by decide) (by decide),
    stripFrom_literal, stripFrom_commas, commandsText_eq]

theorem joinLines_commands (first : String) (others : List String) (rest : List Char) :
    joinLines (commandsText first others rest) = commandsText first others (joinLines rest) := by
  have hline : ∀ c ∈ commandsText first others [], c ≠ '\n' ∧ c ≠ '\r' := by
    intro c hc
    -- Only the marks and the literals come into question, and a literal has no line break.
    have hcases : (∃ command : String, c ∈ literal command.toList) ∨ c ∈ ['[', ','] := by
      simp only [commandsText_eq, List.append_nil, List.mem_cons, List.mem_append,
        List.mem_flatMap] at hc
      grind
    rcases hcases with ⟨command, hliteral⟩ | hmark
    · exact oneLine_literal command.toList c hliteral
    · simp only [List.mem_cons, List.not_mem_nil, or_false] at hmark
      rcases hmark with rfl | rfl <;> decide
  have hsplit : ∀ rest, commandsText first others rest = commandsText first others [] ++ rest := by
    intro rest
    simp [commandsText_eq]
  rw [hsplit, joinLines_oneLine hline, ← hsplit]

theorem isEscapeChar_of_mem_fence : ∀ c ∈ fence, isEscapeChar c = false := by
  intro c hc
  obtain rfl : c = '\x60' := by simpa [fence] using hc
  decide

/-- A fence among literals is a fence in one of their commands or lies behind them. -/
theorem fence_infix_commas {others : List String} {rest : List Char}
    (h : fence <:+: (others.flatMap fun command => ',' :: literal command.toList) ++ rest) :
    (∃ command ∈ others, fence <:+: command.toList) ∨ fence <:+: rest := by
  have hcomma : ',' ∉ fence := by decide
  induction others with
  | nil => exact .inr h
  | cons command others ih =>
    rw [List.flatMap_cons, List.append_assoc, List.cons_append] at h
    have hbehind := infix_of_infix_cons hcomma h
    rcases infix_of_infix_literal isEscapeChar_of_mem_fence hbehind with hin | hlater
    · exact .inl ⟨command, List.mem_cons_self, hin⟩
    · rcases ih hlater with ⟨other, hother, hin⟩ | hrest
      · exact .inl ⟨other, List.mem_cons_of_mem command hother, hin⟩
      · exact .inr hrest

theorem fence_infix_commands {first : String} {others : List String} {rest : List Char}
    (h : fence <:+: commandsText first others rest) :
    (∃ command ∈ first :: others, fence <:+: command.toList) ∨ fence <:+: rest := by
  refine fence_infix_commas ?_
  rw [List.flatMap_cons, List.append_assoc, List.cons_append]
  -- The opening bracket gives way to the comma that would stand before an item.
  refine List.infix_cons (infix_of_infix_cons (show '[' ∉ fence by decide) ?_)
  rwa [commandsText_eq] at h

theorem stripFences_of_not_infix {s : List Char} (h : ¬ fence <:+: s) : stripFences s = s := by
  have hblocks : substitute fencedBlock s = s :=
    substitute_of_not_infix (fun t ht => by simp [fencedBlock, ht]) h
  rw [stripFences, hblocks]
  exact replaceAll_of_not_infix h []

/-! ## Extraction -/

/-- Commands without a fence are cleaned to themselves, and what stands behind them is cleaned by
itself. -/
theorem cleanArray_commands {first : String} {others : List String}
    (h : ∀ command ∈ first :: others, ¬ fence <:+: command.toList) {rest : List Char}
    (hrest : '\x60' ∉ rest) :
    cleanArray (commandsText first others (rest ++ [']'])) =
      some (commandsText first others (joinLines (stripFrom .outside (rest ++ [']'])))) := by
  have hunfenced : ¬ fence <:+: commandsText first others (rest ++ [']']) := by
    -- A fence would lie in a command or in the text behind, and neither has one.
    intro hinfix
    rcases fence_infix_commands hinfix with ⟨command, hcommand, hin⟩ | hlater
    · exact h command hcommand hin
    · have hmem : '\x60' ∈ rest ++ [']'] := hlater.subset (by decide)
      simp [hrest] at hmem
  have hlocate : locateArray (commandsText first others (rest ++ [']'])) =
      some (commandsText first others (rest ++ [']'])) := by
    have hwhole := locateArray_append (List.not_mem_nil (a := '[')) (List.not_mem_nil (a := ']'))
      (literal first.toList ++
        ((others.flatMap fun command => ',' :: literal command.toList) ++ rest))
    simpa [commandsText_eq] using hwhole
  rw [cleanArray, stripFences_of_not_infix hunfenced, hlocate, Option.map_some,
    stripComments_commands, joinLines_commands]

/-- A compact text without a fence is cleaned to itself. -/
theorem cleanArray_compact {first : String} {others : List String}
    (h : ∀ command ∈ first :: others, ¬ fence <:+: command.toList) :
    cleanArray (compactChars (toJson (first :: others))) =
      some (compactChars (toJson (first :: others))) := by
  have hclean := cleanArray_commands h (List.not_mem_nil (a := '\x60'))
  rw [compactChars_toJson]
  exact hclean

theorem ofJson_toJson (plan : Plan) : ofJson (toJson plan) = .ok plan := by
  simp [ofJson, toJson, ofStrings, commandOf, Function.comp_def]

/-- A plan is an array of strings, which is one level deep. -/
theorem plain_toJson {levels : Nat} (plan : Plan) : Plain (levels + 1) (toJson plan) := by
  refine Plain.array fun item hitem => ?_
  obtain ⟨command, -, rfl⟩ := List.mem_map.1 hitem
  exact .string command

/-- **A plan as JSON is taken as it is.** The compact JSON text of a plan is extracted to that plan,
whatever its commands are, as long as none of them has three backticks in a row. -/
theorem extract_compact_of_unfenced (plan : Plan) (hplan : plan ≠ [])
    (hfence : ∀ command ∈ plan, ¬ fence <:+: command.toList) :
    extract (toJson plan).compact = .ok plan := by
  obtain ⟨first, others, rfl⟩ := List.exists_cons_of_ne_nil hplan
  have hread : readRepaired (compactChars (toJson (first :: others))) =
      .ok (toJson (first :: others)) := by
    -- The strict reading succeeds, so nothing is repaired.
    rw [readRepaired, (plain_toJson _).parseChars_compactChars]
  rw [extract, compact, String.toList_ofList, extractChars, cleanArray_compact hfence]
  simp only [hread, ofJson_toJson]

/-- Brackets, quotes, slashes, line breaks and pairs of backticks are all taken as they are. -/
theorem extract_compact_lookalikes :
    let plan := ["a]\x60\x60[b", "\"//\n\\", "\x60\x60"]
    plan ≠ [] ∧ (∀ command ∈ plan, ¬ fence <:+: command.toList) ∧
      extract (toJson plan).compact = .ok plan := by
  intro plan
  have hplan : plan ≠ [] := by simp [plan]
  have hfence : ∀ command ∈ plan, ¬ fence <:+: command.toList := by decide +kernel
  exact ⟨hplan, hfence, extract_compact_of_unfenced plan hplan hfence⟩

/-- Three backticks in a row inside a command are lost: they are taken for a fence. -/
theorem extract_compact_fence :
    extract (toJson ["\x60\x60\x60"]).compact = .ok [""] ∧
      ¬ ∀ plan : Plan, plan ≠ [] → extract (toJson plan).compact = .ok plan := by
  have hlost : extract (toJson ["\x60\x60\x60"]).compact = .ok [""] := rfl
  have hchanged : ¬ ∀ plan : Plan, plan ≠ [] → extract (toJson plan).compact = .ok plan := by
    intro hall
    have hkept := hall ["\x60\x60\x60"] (List.cons_ne_nil _ _)
    have hsame : [""] = ["\x60\x60\x60"] := Except.ok.inj (hlost.symm.trans hkept)
    exact absurd hsame (by decide)
  exact ⟨hlost, hchanged⟩

end Deskhand.Plan
