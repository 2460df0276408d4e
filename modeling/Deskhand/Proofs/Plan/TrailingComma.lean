/-
  Deskhand.Proofs.Plan.TrailingComma

  A comma behind the last command.

  The strict reader refuses a comma behind the last command of a plan, so the plan is read once more
  without trailing commas. This second reading looks for commas in the whole array, and not only
  behind its items: a command that holds a comma before a closer loses that comma as well, together
  with the blanks between them. The plan comes back as it was exactly when there is no such command.
-/

import Deskhand.Proofs.Json.TrailingCommas
import Deskhand.Proofs.Plan.Compact

namespace Deskhand.Plan

open Deskhand.Json Deskhand.Text

/-- The compact text of a plan with more characters in front of its closing bracket. -/
def lengthened (plan : Plan) (extra : List Char) : String :=
  String.ofList ((compactChars (toJson plan)).dropLast ++ (extra ++ [']']))

theorem toList_lengthened (first : String) (others : List String) (extra : List Char) :
    (lengthened (first :: others) extra).toList = commandsText first others (extra ++ [']']) := by
  have hsplit :
      compactChars (toJson (first :: others)) = commandsText first others [] ++ [']'] := by
    rw [compactChars_toJson, commandsText_eq, commandsText_eq]
    simp
  rw [lengthened, String.toList_ofList, hsplit, List.dropLast_concat, commandsText_eq,
    commandsText_eq]
  simp

/-! ## The passes -/

theorem stripFrom_outside_append {s : List Char} (h : ∀ c ∈ s, c ≠ '"' ∧ c ≠ '/')
    (rest : List Char) : stripFrom .outside (s ++ rest) = s ++ stripFrom .outside rest := by
  induction s with
  | nil => rfl
  | cons c s ih =>
    obtain ⟨hquote, hslash⟩ := h c List.mem_cons_self
    have hs := ih fun d hd => h d (List.mem_cons_of_mem c hd)
    rw [List.cons_append, stripFrom_outside hquote hslash, hs, List.cons_append]

theorem stripFrom_blank {spaces : List Char} (h : Blank spaces) (rest : List Char) :
    stripFrom .outside (spaces ++ rest) = spaces ++ stripFrom .outside rest := by
  refine stripFrom_outside_append (fun c hc => ⟨?_, ?_⟩) rest
  · rintro rfl
    exact h.notMem (by decide) hc
  · rintro rfl
    exact h.notMem (by decide) hc

theorem joinLines_comma {before after : List Char} (hbefore : Blank before) (hafter : Blank after) :
    joinLines (stripFrom .outside (before ++ ',' :: after ++ [']'])) =
      joinLines before ++ ',' :: (joinLines after ++ [']']) := by
  have hscan : stripFrom .outside (before ++ ',' :: after ++ [']']) =
      before ++ ',' :: (after ++ [']']) := by
    rw [List.append_assoc, List.cons_append, stripFrom_blank hbefore,
      stripFrom_outside (by decide) (by decide), stripFrom_blank hafter]
    rfl
  have hcomma := joinLines_oneLine (s := [',']) (by simp) (after ++ [']'])
  have hbracket := joinLines_oneLine (s := [']']) (by simp) []
  rw [hscan, joinLines_append before (by simp), ← List.singleton_append, hcomma,
    joinLines_append after (by simp)]
  exact congrArg (fun s => joinLines before ++ ',' :: (joinLines after ++ s)) hbracket

/-- With a comma behind its last command a plan is cleaned to its commands and a comma between
spaces. -/
theorem cleanArray_lengthened {first : String} {others : List String}
    (h : ∀ command ∈ first :: others, ¬ fence <:+: command.toList) {before after : List Char}
    (hbefore : Blank before) (hafter : Blank after) :
    cleanArray (lengthened (first :: others) (before ++ ',' :: after)).toList =
      some (commandsText first others (joinLines before ++ ',' :: (joinLines after ++ [']']))) := by
  have hbacktick : '\x60' ∉ before ++ ',' :: after := by
    have hspace : isSpace '\x60' = false := by decide
    simp [hbefore.notMem hspace, hafter.notMem hspace]
  rw [toList_lengthened, cleanArray_commands h hbacktick, joinLines_comma hbefore hafter]

/-! ## Reading the array -/

theorem reads_compactItem (command : String) (depth : Nat) :
    (compactItem command).Reads 1 depth := by
  have hreads := reads_literal blank_nil blank_nil command.toList depth
  rwa [String.ofList_toList] at hreads

theorem parseChars_comma (first : String) (others : List String) {before after : List Char}
    (hbefore : Blank before) (hafter : Blank after) :
    ∃ e, parseChars (commandsText first others (before ++ ',' :: (after ++ [']']))) = .error e := by
  refine parseChars_trailingComma (fun item hitem => ?_) hbefore hafter
  rw [← List.map_cons] at hitem
  obtain ⟨command, -, rfl⟩ := List.mem_map.1 hitem
  have hlength : 0 < (literal command.toList).length := by simp [literal]
  exact (reads_compactItem command _).mono (by simp only [compactItem]; omega)

theorem closesNext_literal (s rest : List Char) : closesNext (literal s ++ rest) = false := rfl

/-- Without its trailing commas the array is read as the plan whose commands are what the repair
leaves of each command. -/
theorem exists_parseChars_repaired (first : String) (others : List String)
    {before after : List Char} (hbefore : Blank before) (hafter : Blank after) :
    ∃ repaired : String → String,
      parseChars (dropTrailingCommas
          (commandsText first others (before ++ ',' :: (after ++ [']'])))) =
        .ok (toJson ((first :: others).map repaired)) ∧
      ∀ command, repaired command = command ↔ ¬ HoldsTrailingComma (literal command.toList) := by
  -- What the repair makes of a command, chosen for every command at once.
  obtain ⟨raw, hraw⟩ := Classical.axiomOfChoice fun command : String =>
    exists_content_repaired command.toList
  obtain ⟨text, htext⟩ := Classical.axiomOfChoice hraw
  refine ⟨fun command => String.ofList (text command), ?_, fun command => ?_⟩
  · let item (command : String) : Spelled :=
      ⟨[], '"' :: (raw command ++ ['"']), [], .string (String.ofList (text command))⟩
    have hchars : ∀ command : String, ∀ rest,
        dropTrailingCommas (literal command.toList ++ rest) =
          (item command).chars ++ dropTrailingCommas rest := by
      intro command rest
      rw [(htext command).2.1]
      simp [item, Spelled.chars]
    -- The commas between the commands stay, and only the last one goes.
    have hcommas := dropTrailingCommas_commas
      (fun command (_ : command ∈ others) rest => closesNext_literal command.toList rest)
      (fun command _ => hchars command) (before ++ ',' :: (after ++ [']']))
    have hdrop : dropTrailingCommas
        (commandsText first others (before ++ ',' :: (after ++ [']']))) =
          openArray (item first) (others.map item) (before ++ [']']) := by
      rw [commandsText_eq, dropTrailingCommas_cons (by decide), hchars, hcommas,
        dropTrailingCommas_comma_bracket hbefore hafter, openArray, List.flatMap_map]
    have hreads : ∀ spelled ∈ item first :: others.map item,
        spelled.Reads (2 * spelled.text.length) (maxDepth - 1) := by
      intro spelled hspelled
      rw [← List.map_cons] at hspelled
      obtain ⟨command, -, rfl⟩ := List.mem_map.1 hspelled
      have hstring : Denotes 0 (item command).text (item command).value :=
        .string (htext command).1
      exact hstring.reads ⟨blank_nil, blank_nil⟩ (Nat.zero_le _)
    rw [hdrop, parseChars_closed hreads hbefore]
    simp [toJson, ofStrings, item, Function.comp_def]
  · rw [← (htext command).2.2]
    -- The command comes back if and only if its text does.
    constructor
    · intro h
      have htoList := congrArg String.toList h
      rwa [String.toList_ofList] at htoList
    · intro h
      show String.ofList (text command) = command
      rw [h, String.ofList_toList]

/-! ## Extraction -/

/-- **When a comma behind the last command is repaired.** The compact text of a plan with a comma
and any spaces in front of its closing bracket is extracted to that plan exactly when no command is
written with a comma before a closer. -/
theorem extract_comma_iff (plan : Plan) (hplan : plan ≠ [])
    (hfence : ∀ command ∈ plan, ¬ fence <:+: command.toList) {before after : List Char}
    (hbefore : Blank before) (hafter : Blank after) :
    extract (lengthened plan (before ++ ',' :: after)) = .ok plan ↔
      ∀ command ∈ plan, ¬ HoldsTrailingComma (literal command.toList) := by
  obtain ⟨first, others, rfl⟩ := List.exists_cons_of_ne_nil hplan
  have hclean := cleanArray_lengthened hfence hbefore hafter
  have hbefore' := blank_joinLines hbefore
  have hafter' := blank_joinLines hafter
  obtain ⟨e, hstrict⟩ := parseChars_comma first others hbefore' hafter'
  obtain ⟨repaired, hparse, hrepaired⟩ :=
    exists_parseChars_repaired first others hbefore' hafter'
  have hread : extract (lengthened (first :: others) (before ++ ',' :: after)) =
      .ok ((first :: others).map repaired) := by
    have hjson := ofJson_toJson ((first :: others).map repaired)
    rw [extract, extractChars, hclean]
    simp only [readRepaired, hstrict, hparse, hjson]
    rfl
  have hmap := List.map_inj_left (f := repaired) (g := id) (l := first :: others)
  rw [List.map_id] at hmap
  rw [hread]
  constructor
  · intro h command hcommand
    exact (hrepaired command).1 (hmap.1 (Except.ok.inj h) command hcommand)
  · intro h
    rw [hmap.2 fun command hcommand => (hrepaired command).2 (h command hcommand)]

/-- Brackets and commas that do not come together are left alone. -/
theorem extract_comma_lookalikes :
    let plan := ["click(1, 2)", "type(\"a,b] ,\")"]
    plan ≠ [] ∧ (∀ command ∈ plan, ¬ fence <:+: command.toList) ∧ Blank [' '] ∧ Blank ['\n', '\t'] ∧
      (∀ command ∈ plan, ¬ HoldsTrailingComma (literal command.toList)) ∧
      extract (lengthened plan ([' '] ++ ',' :: ['\n', '\t'])) = .ok plan := by
  intro plan
  have hplan : plan ≠ [] := by simp [plan]
  have hfence : ∀ command ∈ plan, ¬ fence <:+: command.toList := by decide +kernel
  have hbefore : Blank [' '] := by decide
  have hafter : Blank ['\n', '\t'] := by decide
  have hnone : ∀ command ∈ plan, ¬ HoldsTrailingComma (literal command.toList) := by decide +kernel
  exact ⟨hplan, hfence, hbefore, hafter, hnone,
    (extract_comma_iff plan hplan hfence hbefore hafter).2 hnone⟩

/-- A command with a comma before a bracket comes back without it. -/
theorem not_forall_extract_comma :
    (extract (lengthened ["a,]"] [','])).toOption = some ["a]"] ∧
      ¬ ∀ (plan : Plan) (before after : List Char), plan ≠ [] →
        (∀ command ∈ plan, ¬ fence <:+: command.toList) → Blank before → Blank after →
          extract (lengthened plan (before ++ ',' :: after)) = .ok plan := by
  have hlost : (extract (lengthened ["a,]"] [','])).toOption = some ["a]"] := by decide +kernel
  refine ⟨hlost, fun hall => ?_⟩
  have hfence : ∀ command ∈ ["a,]"], ¬ fence <:+: command.toList := by decide +kernel
  have hkept := hall ["a,]"] [] [] (List.cons_ne_nil _ _) hfence blank_nil blank_nil
  have hsame : some ["a,]"] = some ["a]"] := (congrArg Except.toOption hkept).symm.trans hlost
  exact absurd hsame (by decide)

end Deskhand.Plan
