/-
  Deskhand.Proofs.Execution.Attempts

  A plan as a list of attempts.

  A run of a plan, under a deadline or without one, is one attempt after the other: what happens in
  it is what happens in the attempts, and its log has the entries of each. An attempt either comes
  to nothing before a handler is found, or it is the run of a handler of the registry. So whatever
  always holds of the handlers can be said of each command of a plan.
-/

import Deskhand.Execution.Executor
import Deskhand.Proofs.Script
import Deskhand.Proofs.Script.Always

namespace Deskhand.Execution

open Deskhand.Script (Always Ending Property Sequential)

variable {I : Interface} {σ : Type}

/-! ## Handlers by name -/

/-- A handler that is found among registered ones is one of them, under its name. -/
theorem mem_of_lookup_registerAll {entries : List (String × Handler I)} {registry : Registry I}
    {name : String} {handler : Handler I}
    (h : (registry.registerAll entries).lookup name = some handler) :
    (name, handler) ∈ entries ∨ registry.lookup name = some handler := by
  induction entries generalizing registry with
  | nil => exact .inr h
  | cons entry entries ih =>
    have hlater : ((registry.register entry.1 entry.2).registerAll entries).lookup name =
        some handler := h
    rcases ih hlater with hmem | hfound
    · exact .inl (List.mem_cons_of_mem entry hmem)
    -- It was found in what the first entry has made of the registry.
    · rw [Registry.lookup_register] at hfound
      split at hfound
      · next hname =>
        left
        rw [← hname, ← Option.some.inj hfound]
        exact List.mem_cons_self
      · exact .inr hfound

theorem mem_of_lookup {entries : List (String × Handler I)} {name : String} {handler : Handler I}
    (h : (Registry.registerAll entries .empty).lookup name = some handler) :
    (name, handler) ∈ entries := by
  rcases mem_of_lookup_registerAll h with hmem | hempty
  · exact hmem
  · cases hempty

/-- Names that are registered later make no difference. -/
theorem lookup_registerAll_of_notMem {entries : List (String × Handler I)} {name : String}
    (h : name ∉ entries.map Prod.fst) (registry : Registry I) :
    (registry.registerAll entries).lookup name = registry.lookup name := by
  induction entries generalizing registry with
  | nil => rfl
  | cons entry entries ih =>
    rw [List.map_cons, List.mem_cons, not_or] at h
    obtain ⟨hname, hothers⟩ := h
    have hlater := ih hothers (registry.register entry.1 entry.2)
    rw [Registry.lookup_register, if_neg (Ne.symm hname)] at hlater
    exact hlater

/-- Of handlers with different names each is found under its own. -/
theorem lookup_registerAll_of_mem {entries : List (String × Handler I)}
    (hnames : (entries.map Prod.fst).Nodup) {name : String} {handler : Handler I}
    (h : (name, handler) ∈ entries) (registry : Registry I) :
    (registry.registerAll entries).lookup name = some handler := by
  induction entries generalizing registry with
  | nil => cases h
  | cons entry entries ih =>
    obtain ⟨hfirst, hothers⟩ := List.nodup_cons.1 hnames
    rcases List.mem_cons.1 h with rfl | hmem
    -- The names behind it are different, so nothing takes its place.
    · have hlater := lookup_registerAll_of_notMem hfirst (registry.register name handler)
      rw [Registry.lookup_register, if_pos rfl] at hlater
      exact hlater
    · exact ih hothers hmem (registry.register entry.1 entry.2)

/-! ## One attempt -/

/-- An attempt fails before anything happens, or it is the run of a handler. Which of the two it is
does not depend on the deadline. -/
theorem attempt_cases (registry : Registry I) (host : Host I σ) (command : String)
    (before : Situation σ) :
    (∃ error cache, ∀ deadline, attempt registry host deadline command before =
        ⟨some (.error error), { before with cache }, []⟩) ∨
      ∃ parsed cache handler, Command.parse before.cache command = (.ok parsed, cache) ∧
        registry.lookup parsed.name = some handler ∧
        ∀ deadline, attempt registry host deadline command before =
          .ofRun parsed.name parsed.args cache
            ((handler parsed.args).run host deadline before.state before.clock) := by
  rcases hparse : Command.parse before.cache command with ⟨result, cache⟩
  cases result with
  | error error =>
    refine .inl ⟨error, cache, fun deadline => ?_⟩
    simp only [attempt, hparse]
  | ok parsed =>
    cases hlookup : registry.lookup parsed.name with
    | none =>
      refine .inl ⟨.unknownCommand parsed.name, cache, fun deadline => ?_⟩
      simp only [attempt, hparse, hlookup]
    | some handler =>
      refine .inr ⟨parsed, cache, handler, rfl, hlookup, fun deadline => ?_⟩
      simp only [attempt, hparse, hlookup]

theorem attempt_outcome_ne_none (registry : Registry I) (host : Host I σ) (command : String)
    (before : Situation σ) : (attempt registry host none command before).outcome ≠ none := by
  rcases attempt_cases registry host command before with
    ⟨error, cache, hattempt⟩ | ⟨parsed, cache, handler, -, -, hattempt⟩
  · rw [hattempt none]
    exact Option.some_ne_none _
  -- Only a deadline cuts a handler off.
  · have hending :=
      Script.run_ending_ne_cutOff host (handler parsed.args) before.state before.clock
    rw [hattempt none]
    unfold Attempt.ofRun
    cases hrun : ((handler parsed.args).run host none before.state before.clock).ending with
    | done message => exact Option.some_ne_none _
    | failed error => exact Option.some_ne_none _
    | cutOff => exact absurd hrun hending

/-! ## All attempts of a plan -/

/-- A plan goes on behind a command that was not cut off. -/
theorem execute_cons {registry : Registry I} {host : Host I σ} {deadline : Option Nat}
    {command : String} {before : Situation σ} {outcome : Except PlanError (Option String)}
    (h : (attempt registry host deadline command before).outcome = some outcome) (rest : Plan) :
    let made := attempt registry host deadline command before
    let others := execute registry host deadline rest made.after
    execute registry host deadline (command :: rest) before =
      { log := others.log.map fun log =>
          ⟨command, .attempted, none⟩ :: outcomeEntry command outcome :: log
        after := others.after
        trace := made.trace ++ others.trace } := by
  simp only [execute, h]

theorem execute_cons_of_cutOff {registry : Registry I} {host : Host I σ} {deadline : Option Nat}
    {command : String} {before : Situation σ}
    (h : (attempt registry host deadline command before).outcome = none) (rest : Plan) :
    let made := attempt registry host deadline command before
    execute registry host deadline (command :: rest) before = ⟨none, made.after, made.trace⟩ := by
  simp only [execute, h]

/-- Without a deadline, a plan has a log. -/
theorem execute_log_ne_none (registry : Registry I) (host : Host I σ) (plan : Plan)
    (before : Situation σ) : (execute registry host none plan before).log ≠ none := by
  induction plan generalizing before with
  | nil => exact Option.some_ne_none _
  | cons command rest ih =>
    obtain ⟨outcome, houtcome⟩ :=
      Option.ne_none_iff_exists'.1 (attempt_outcome_ne_none registry host command before)
    have hrest := ih (attempt registry host none command before).after
    rw [execute_cons houtcome]
    simpa using hrest

/-- The attempts of a plan, in order. A command behind one that was cut off is not attempted. -/
def attempts (registry : Registry I) (host : Host I σ) (deadline : Option Nat) :
    Plan → Situation σ → List (Attempt I σ)
  | [], _ => []
  | command :: rest, before =>
    let first := attempt registry host deadline command before
    match first.outcome with
    | none => [first]
    | some _ => first :: attempts registry host deadline rest first.after

theorem execute_trace (registry : Registry I) (host : Host I σ) (deadline : Option Nat)
    (plan : Plan) (before : Situation σ) :
    (execute registry host deadline plan before).trace =
      (attempts registry host deadline plan before).flatMap Attempt.trace := by
  induction plan generalizing before with
  | nil => rfl
  | cons command rest ih =>
    simp only [execute, attempts]
    cases (attempt registry host deadline command before).outcome with
    | none => simp
    | some outcome => simp [ih]

/-- A limit is a deadline that counts from the start of the plan. -/
theorem executeWithin_report (registry : Registry I) (host : Host I σ) (limit : Option Nat)
    (plan : Plan) (before : Situation σ) :
    (executeWithin registry host limit plan before).2 =
      execute registry host (limit.map (before.clock + ·)) plan before := by
  unfold executeWithin
  simp only
  split <;> rfl

/-- The entries of a log that an attempt at a command makes. -/
def Attempt.entries (command : String) (made : Attempt I σ) : Log :=
  ⟨command, .attempted, none⟩ :: made.outcome.toList.map (outcomeEntry command)

/-- Where a plan has a log, each of its commands was attempted and came to an outcome, which is the
second of the two entries that it has there. -/
theorem exists_outcome_of_log {registry : Registry I} {host : Host I σ} {deadline : Option Nat}
    {plan : Plan} {before : Situation σ} {log : Log}
    (h : (execute registry host deadline plan before).log = some log) {i : Nat} {command : String}
    (hi : plan[i]? = some command) :
    ∃ start outcome, (attempts registry host deadline plan before)[i]? =
        some (attempt registry host deadline command start) ∧
      (attempt registry host deadline command start).outcome = some outcome ∧
      log[2 * i + 1]? = some (outcomeEntry command outcome) := by
  induction plan generalizing before log i with
  | nil => cases hi
  | cons first rest ih =>
    simp only [execute, attempts] at h ⊢
    cases houtcome : (attempt registry host deadline first before).outcome with
    | none => simp [houtcome] at h
    | some outcome =>
      rw [houtcome] at h
      obtain ⟨others, hothers, rfl⟩ := Option.map_eq_some_iff.1 h
      -- The entries of the first command come first, and the others count from behind them.
      cases i with
      | zero =>
        obtain rfl : first = command := Option.some.inj hi
        exact ⟨before, outcome, rfl, houtcome, rfl⟩
      | succ i => exact ih hothers hi

theorem exists_attempt_of_mem {registry : Registry I} {host : Host I σ} {deadline : Option Nat}
    {plan : Plan} {before : Situation σ} {made : Attempt I σ}
    (h : made ∈ attempts registry host deadline plan before) :
    ∃ command ∈ plan, ∃ start, made = attempt registry host deadline command start := by
  induction plan generalizing before with
  | nil => exact absurd h List.not_mem_nil
  | cons command rest ih =>
    simp only [attempts] at h
    cases houtcome : (attempt registry host deadline command before).outcome with
    | none =>
      rw [houtcome] at h
      exact ⟨command, List.mem_cons_self, before, List.mem_singleton.1 h⟩
    | some outcome =>
      rw [houtcome] at h
      rcases List.mem_cons.1 h with rfl | hlater
      · exact ⟨command, List.mem_cons_self, before, rfl⟩
      · obtain ⟨other, hother, start, hmade⟩ := ih hlater
        exact ⟨other, List.mem_cons_of_mem command hother, start, hmade⟩

/-- An attempt of a plan in which something happens is the run of a handler. -/
theorem trace_eq_nil_or_ofRun_of_mem {registry : Registry I} {host : Host I σ}
    {deadline : Option Nat} {plan : Plan} {before : Situation σ} {made : Attempt I σ}
    (h : made ∈ attempts registry host deadline plan before) :
    made.trace = [] ∨
      ∃ name args cache handler state clock, registry.lookup name = some handler ∧
        made = .ofRun name args cache ((handler args).run host deadline state clock) := by
  obtain ⟨command, -, start, rfl⟩ := exists_attempt_of_mem h
  rcases attempt_cases registry host command start with
    ⟨error, cache, hattempt⟩ | ⟨parsed, cache, handler, -, hlookup, hattempt⟩
  · rw [hattempt]
    exact .inl rfl
  · exact .inr ⟨parsed.name, parsed.args, cache, handler, start.state, start.clock, hlookup,
      hattempt deadline⟩

/-- What goes over from parts to the whole and always holds of the handlers, holds of what happens
in each attempt of a plan. -/
theorem exists_ending_of_mem_attempts {registry : Registry I} {P : Property I} (hP : Sequential P)
    (hstarted : ∀ name args, P [.started name args] (.done ()))
    (hhandlers : ∀ name handler, registry.lookup name = some handler →
      ∀ args, Always P (handler args))
    {host : Host I σ} {deadline : Option Nat} {plan : Plan} {before : Situation σ}
    {made : Attempt I σ} (h : made ∈ attempts registry host deadline plan before) :
    ∃ ending, P made.trace ending := by
  rcases trace_eq_nil_or_ofRun_of_mem h with
    hempty | ⟨name, args, cache, handler, state, clock, hlookup, rfl⟩
  · exact ⟨.done (), hempty ▸ hP.nothing⟩
  -- The start of the handler is a part of its own, in front of the run.
  · have hrun := (hhandlers name handler hlookup args).run host deadline state clock
    exact ⟨_, hP.append (hstarted name args) hrun⟩

theorem exists_answer_of_mem_attempts {registry : Registry I} {host : Host I σ}
    {deadline : Option Nat} {plan : Plan} {before : Situation σ} {made : Attempt I σ}
    (h : made ∈ attempts registry host deadline plan before) {c : I.Call}
    {answer : Except ActionError (I.Reply c)} (hcalled : .called c answer ∈ made.trace) :
    ∃ state, answer = (host.answer c state).1 := by
  rcases trace_eq_nil_or_ofRun_of_mem h with
    hempty | ⟨name, args, cache, handler, state, clock, -, rfl⟩
  · rw [hempty] at hcalled
    exact absurd hcalled List.not_mem_nil
  · rcases List.mem_cons.1 hcalled with hstarted | hrun
    -- The start of the handler is no call.
    · cases hstarted
    · exact Script.exists_answer_of_called_mem hrun

end Deskhand.Execution
