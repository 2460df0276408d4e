/-
  Deskhand.Proofs.Execution.Items

  Items of a plan that are no strings.

  A plan that comes as a JSON array may hold items of any kind. A string is a command as it stands.
  Any other item is kept as its compact text, which never has the form of a command, whatever the
  item holds: a word or a number has no parenthesis, and an array or an object begins with a bracket
  or a brace. So the parser refuses it before it looks into the cache. No handler is started,
  nothing is stored, and the commands around it find everything as if the item were not there.
-/

import Deskhand.Proofs.Command.Form
import Deskhand.Proofs.Execution.Attempts

namespace Deskhand

open Deskhand.Command Deskhand.Number Deskhand.Text

/-! ## Texts that are no commands -/

theorem Command.split?_of_notMem {s : List Char} (h : '(' ∉ s) : split? s = none := by
  refine split?_eq_none_iff.2 fun form htext => h ?_
  -- The parenthesis stands behind the name.
  rw [← htext, Form.text, Form.behindName]
  simp

theorem Command.split?_cons {c : Char} (hblank : isBlank c = false) (hname : isNameChar c = false)
    (rest : List Char) : split? (c :: rest) = none := by
  -- The name would have no characters.
  have htake : (c :: rest).takeWhile isNameChar = [] :=
    List.takeWhile_cons_of_neg (by simp [hname])
  simp [split?, trimLeft_cons hblank, htake]

/-! ## Numbers have no parenthesis -/

theorem Number.paren_notMem_toDigits (n : Nat) : '(' ∉ Nat.toDigits 10 n := by
  intro h
  exact absurd (Nat.isDigit_of_mem_toDigits (by decide) (by decide) h) (by decide)

theorem Number.paren_notMem_toString (n : Int) : '(' ∉ (toString n).toList := by
  cases n with
  | ofNat n =>
    show '(' ∉ (Nat.repr n).toList
    simp [paren_notMem_toDigits]
  | negSucc n =>
    show '(' ∉ ("-" ++ Nat.repr (n + 1)).toList
    simp [paren_notMem_toDigits]

theorem Number.paren_notMem_zeros (count : Nat) : '(' ∉ (zeros count).toList := by
  rw [zeros, String.toList_ofList]
  intro h
  exact absurd (List.eq_of_mem_replicate h) (by decide)

theorem Number.paren_notMem_positionalText (style : Style) (d : Decimal) :
    '(' ∉ (positionalText style d).toList := by
  have hdigits := paren_notMem_toDigits d.digits
  have htake := fun n => mt (List.mem_of_mem_take (i := n)) hdigits
  have hdrop := fun n => mt (List.mem_of_mem_drop (i := n)) hdigits
  unfold positionalText
  simp only
  -- The digits stand in front of the point, behind it, or on both sides.
  split
  · cases style.keepsPoint <;> simp [hdigits, paren_notMem_zeros]
  · split <;> simp [hdigits, htake, hdrop, paren_notMem_zeros]

theorem Number.paren_notMem_scientificText (style : Style) (d : Decimal) :
    '(' ∉ (scientificText style d).toList := by
  have hdigits : '(' ∉ (Nat.repr d.digits).toList := by simp [paren_notMem_toDigits]
  unfold scientificText
  simp only [String.toList_append, List.mem_append, paren_notMem_toString, or_false]
  rintro ((hmantissa | hletter) | hsign)
  · split at hmantissa
    · next first second rest hcons =>
      rw [hcons] at hdigits
      simp_all
    · exact hdigits hmantissa
  · simp at hletter
  · split at hsign <;> simp at hsign

theorem Number.paren_notMem_spell {f : Format} (style : Style) (x : Binary f) :
    '(' ∉ (x.spell style).toList := by
  cases x with
  | nan => simp [Binary.spell]
  | infinite negative => cases negative <;> simp [Binary.spell]
  | finite negative significand shift =>
    have hspell : ∀ d : Decimal, '(' ∉ (d.spell style).toList := by
      intro d
      unfold Decimal.spell
      split
      · exact paren_notMem_positionalText style d
      · exact paren_notMem_scientificText style d
    cases negative <;> simp [Binary.spell, hspell]

theorem Json.Number.paren_notMem_text (n : Json.Number) : '(' ∉ n.text.toList := by
  cases n with
  | integer value => exact paren_notMem_toString value
  | float value => exact paren_notMem_spell .json64 value

/-! ## Items that are no strings -/

/-- The compact text of an item that is no string does not have the form of a command. -/
theorem Json.split?_compactChars {item : Json} (h : ∀ content, item ≠ .string content) :
    split? item.compactChars = none := by
  cases item with
  | null => rfl
  | bool value => cases value <;> rfl
  | number value => exact split?_of_notMem value.paren_notMem_text
  | string content => exact absurd rfl (h content)
  -- An array and an object begin with a character that is neither blank nor part of a name.
  | array items => exact split?_cons (by decide) (by decide) _
  | object members => exact split?_cons (by decide) (by decide) _

/-- A command inside an array is not taken for one. -/
example : split? (Json.array [.string "wait(1)"]).compactChars = none := rfl

theorem Plan.commandOf_of_ne_string {item : Json} (h : ∀ content, item ≠ .string content) :
    commandOf item = item.compact := by
  cases item with
  | string content => exact absurd rfl (h content)
  | _ => rfl

theorem Command.parse_compact {item : Json} (h : ∀ content, item ≠ .string content)
    (cache : Cache) :
    parse cache item.compact = (.error (.commandFormat item.compact), cache) := by
  have hsplit : split? item.compact.toList = none := by
    rw [Json.compact, String.toList_ofList, Json.split?_compactChars h]
  rw [parse, hsplit]

namespace Execution

variable {I : Interface} {σ : Type}

theorem attempt_compact {item : Json} (h : ∀ content, item ≠ .string content)
    (registry : Registry I) (host : Host I σ) (deadline : Option Nat) (start : Situation σ) :
    attempt registry host deadline item.compact start =
      ⟨some (.error (.commandFormat item.compact)), start, []⟩ := by
  rw [attempt, Command.parse_compact h]

/-- What becomes of the cache is decided by the parser. -/
theorem attempt_cache (registry : Registry I) (host : Host I σ) (deadline : Option Nat)
    (command : String) (start : Situation σ) :
    (attempt registry host deadline command start).after.cache =
      (Command.parse start.cache command).2 := by
  unfold attempt
  rcases Command.parse start.cache command with ⟨result, cache⟩
  cases result with
  | error error => rfl
  | ok parsed => cases hlookup : registry.lookup parsed.name <;> simp [hlookup, Attempt.ofRun]

/-! ## The attempts of a plan, one by one -/

/-- The situation that the first commands of a plan leave. -/
def reached (registry : Registry I) (host : Host I σ) (plan : Plan) (before : Situation σ)
    (i : Nat) : Situation σ :=
  (execute registry host none (plan.take i) before).after

theorem reached_cons_succ (registry : Registry I) (host : Host I σ) (command : String)
    (rest : Plan) (before : Situation σ) (i : Nat) :
    reached registry host (command :: rest) before (i + 1) =
      reached registry host rest (attempt registry host none command before).after i := by
  obtain ⟨outcome, houtcome⟩ :=
    Option.ne_none_iff_exists'.1 (attempt_outcome_ne_none registry host command before)
  rw [reached, List.take_succ_cons, execute_cons houtcome, reached]

/-- Each command is attempted in the situation that the commands before it leave. -/
theorem getElem?_attempts (registry : Registry I) (host : Host I σ) (plan : Plan)
    (before : Situation σ) (i : Nat) :
    (attempts registry host none plan before)[i]? =
      plan[i]?.map fun command =>
        attempt registry host none command (reached registry host plan before i) := by
  induction plan generalizing before i with
  | nil => rfl
  | cons command rest ih =>
    obtain ⟨outcome, houtcome⟩ :=
      Option.ne_none_iff_exists'.1 (attempt_outcome_ne_none registry host command before)
    simp only [attempts, houtcome]
    cases i with
    | zero => rfl
    | succ i =>
      rw [List.getElem?_cons_succ, List.getElem?_cons_succ, ih, reached_cons_succ]

theorem reached_succ {registry : Registry I} {host : Host I σ} {plan : Plan}
    {before : Situation σ} {i : Nat} {command : String} (h : plan[i]? = some command) :
    reached registry host plan before (i + 1) =
      (attempt registry host none command (reached registry host plan before i)).after := by
  induction plan generalizing before i with
  | nil => cases h
  | cons first rest ih =>
    cases i with
    | zero =>
      obtain rfl : first = command := Option.some.inj h
      rw [reached_cons_succ]
      rfl
    | succ i => rw [reached_cons_succ, ih h, reached_cons_succ]

/-- A log begins with the two entries of the first command, and goes on with those of the others. -/
theorem exists_of_log_cons {registry : Registry I} {host : Host I σ} {command : String}
    {rest : Plan} {before : Situation σ} {log : Log}
    (h : (execute registry host none (command :: rest) before).log = some log) :
    let made := attempt registry host none command before
    ∃ outcome others, made.outcome = some outcome ∧
      (execute registry host none rest made.after).log = some others ∧
      log = ⟨command, .attempted, none⟩ :: outcomeEntry command outcome :: others := by
  obtain ⟨outcome, houtcome⟩ :=
    Option.ne_none_iff_exists'.1 (attempt_outcome_ne_none registry host command before)
  rw [execute_cons houtcome] at h
  obtain ⟨others, hothers, hlog⟩ := Option.map_eq_some_iff.1 h
  exact ⟨outcome, others, houtcome, hothers, hlog.symm⟩

/-- A log says of each command that it was attempted, and what came of the attempt. -/
theorem entries_of_log {registry : Registry I} {host : Host I σ} {plan : Plan}
    {before : Situation σ} {log : Log}
    (h : (execute registry host none plan before).log = some log) {i : Nat} {command : String}
    (hi : plan[i]? = some command) :
    ∃ outcome, (attempt registry host none command (reached registry host plan before i)).outcome =
        some outcome ∧
      log[2 * i]? = some ⟨command, .attempted, none⟩ ∧
      log[2 * i + 1]? = some (outcomeEntry command outcome) := by
  induction plan generalizing before log i with
  | nil => cases hi
  | cons first rest ih =>
    obtain ⟨outcome, others, houtcome, hothers, rfl⟩ := exists_of_log_cons h
    cases i with
    | zero =>
      obtain rfl : first = command := Option.some.inj hi
      exact ⟨outcome, houtcome, rfl, rfl⟩
    | succ i =>
      rw [reached_cons_succ]
      exact ih hothers hi

theorem length_of_log {registry : Registry I} {host : Host I σ} {plan : Plan}
    {before : Situation σ} {log : Log}
    (h : (execute registry host none plan before).log = some log) :
    log.length = 2 * plan.length := by
  induction plan generalizing before log with
  | nil =>
    obtain rfl : [] = log := Option.some.inj h
    rfl
  | cons command rest ih =>
    obtain ⟨outcome, others, -, hothers, rfl⟩ := exists_of_log_cons h
    have hlength := ih hothers
    simp only [List.length_cons]
    omega

/-! ## The array and its strings -/

/-- What is no string makes no difference to what happens and to what is left. -/
theorem execute_strings (registry : Registry I) (host : Host I σ) (deadline : Option Nat)
    (items : List Json) (before : Situation σ) :
    let whole := execute registry host deadline (items.map Plan.commandOf) before
    let strings := execute registry host deadline (items.filterMap Json.asString?) before
    whole.trace = strings.trace ∧ whole.after = strings.after := by
  induction items generalizing before with
  | nil => exact ⟨rfl, rfl⟩
  | cons item rest ih =>
    by_cases hstring : ∃ content, item = .string content
    · obtain ⟨content, rfl⟩ := hstring
      -- Both runs take the same step.
      have hsome : (Json.string content).asString? = some content := rfl
      rw [List.map_cons, List.filterMap_cons_some hsome]
      cases houtcome : (attempt registry host deadline content before).outcome with
      | none =>
        rw [Plan.commandOf, execute_cons_of_cutOff houtcome, execute_cons_of_cutOff houtcome]
        exact ⟨rfl, rfl⟩
      | some outcome =>
        obtain ⟨htrace, hafter⟩ := ih (attempt registry host deadline content before).after
        rw [Plan.commandOf, execute_cons houtcome, execute_cons houtcome]
        refine ⟨?_, hafter⟩
        show _ ++ _ = _ ++ _
        rw [htrace]
    · -- Only the run of the whole array takes a step, and it stays where it is.
      have hne : ∀ content, item ≠ .string content := fun content heq => hstring ⟨content, heq⟩
      have hnone : item.asString? = none := by
        cases item with
        | string content => exact absurd rfl (hne content)
        | _ => rfl
      have hattempt := attempt_compact hne registry host deadline before
      have houtcome : (attempt registry host deadline item.compact before).outcome =
          some (.error (.commandFormat item.compact)) := by rw [hattempt]
      rw [List.map_cons, Plan.commandOf_of_ne_string hne, List.filterMap_cons_none hnone,
        execute_cons houtcome, hattempt]
      exact ih before

/-- **Items that are no strings fail alone.** Whatever handlers there are and whatever the cache
holds: an array is a plan, and its run has a log with two entries for each item, in order. A string
is attempted as the command that is its content, in the situation that the items before it leave,
and its second entry tells what came of that. Any other item is logged with its compact text, as
attempted and then as no command; nothing happens in the attempt, and it leaves what it finds. The
whole run does what the run of the strings alone does, and leaves what that one leaves. -/
theorem execute_items (registry : Registry I) (host : Host I σ) (items : List Json)
    (before : Situation σ) :
    ∃ plan log, Plan.ofJson (.array items) = .ok plan ∧
      (execute registry host none plan before).log = some log ∧ log.length = 2 * items.length ∧
      (∀ i content, items[i]? = some (.string content) →
        let start := reached registry host plan before i
        let made := attempt registry host none content start
        (attempts registry host none plan before)[i]? = some made ∧
          reached registry host plan before (i + 1) = made.after ∧
          made.after.cache = (Command.parse start.cache content).2 ∧
          ∃ outcome, made.outcome = some outcome ∧
            log[2 * i]? = some ⟨content, .attempted, none⟩ ∧
            log[2 * i + 1]? = some (outcomeEntry content outcome)) ∧
      (∀ i item, items[i]? = some item → (∀ content, item ≠ .string content) →
        let start := reached registry host plan before i
        (attempts registry host none plan before)[i]? =
            some ⟨some (.error (.commandFormat item.compact)), start, []⟩ ∧
          reached registry host plan before (i + 1) = start ∧
          log[2 * i]? = some ⟨item.compact, .attempted, none⟩ ∧
          log[2 * i + 1]? =
            some ⟨item.compact, .failed, some ("Invalid command format: " ++ item.compact)⟩) ∧
      let alone := execute registry host none (items.filterMap Json.asString?) before
      (execute registry host none plan before).trace = alone.trace ∧
        (execute registry host none plan before).after = alone.after := by
  have hsome := execute_log_ne_none registry host (items.map Plan.commandOf) before
  obtain ⟨log, hlog⟩ := Option.ne_none_iff_exists'.1 hsome
  have hlength := length_of_log hlog
  rw [List.length_map] at hlength
  refine ⟨items.map Plan.commandOf, log, rfl, hlog, hlength, ?_, ?_,
    execute_strings registry host none items before⟩
  · intro i content hitem start made
    -- A string is its own command.
    have hcommand : (items.map Plan.commandOf)[i]? = some content := by
      rw [List.getElem?_map, hitem]
      rfl
    refine ⟨?_, reached_succ hcommand, attempt_cache registry host none content start,
      entries_of_log hlog hcommand⟩
    rw [getElem?_attempts, hcommand]
    rfl
  · intro i item hitem hne start
    -- Any other item is attempted as its compact text.
    have hcommand : (items.map Plan.commandOf)[i]? = some item.compact := by
      rw [List.getElem?_map, hitem, Option.map_some, Plan.commandOf_of_ne_string hne]
    have hattempt := attempt_compact hne registry host none start
    obtain ⟨outcome, houtcome, hattempted, hreported⟩ := entries_of_log hlog hcommand
    rw [hattempt] at houtcome
    obtain rfl : .error (.commandFormat item.compact) = outcome := Option.some.inj houtcome
    refine ⟨?_, ?_, hattempted, hreported⟩
    · rw [getElem?_attempts, hcommand, Option.map_some, hattempt]
    · rw [reached_succ hcommand, hattempt]

end Execution

end Deskhand
