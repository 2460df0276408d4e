/-
  Deskhand.Proofs.Execution.Deadline

  Plans under a time limit.

  A time limit only truncates. What happens under it is what happens first when there is more time;
  no handler is started that would not have been started, nothing is asked for that would not have
  been asked for, and in the same order. The log is the one that the plan has without a limit, if
  all that its commands sleep takes no longer than the limit, and otherwise there is none.

  The comparison is made for one command at a time. As long as commands end before the earlier one
  of two deadlines they do the same under both, so the runs of the whole plan go on side by side
  until one command is cut off.
-/

import Deskhand.Agent.Basic
import Deskhand.Proofs.Execution.Attempts
import Deskhand.Proofs.Script.Deadline

namespace Deskhand.Execution

variable {I : Interface} {σ : Type}

/-! ## One command -/

/-- Under a later deadline an attempt is the same, or it was cut off and begins in the same way. -/
theorem attempt_eq_or_prefix (registry : Registry I) (host : Host I σ) (command : String)
    (before : Situation σ) {limit : Nat} {deadline : Option Nat}
    (hlater : NotBefore limit deadline) :
    let extended := attempt registry host deadline command before
    let limited := attempt registry host (some limit) command before
    limited = extended ∨ (limited.outcome = none ∧ limited.trace <+: extended.trace) := by
  intro extended limited
  rcases attempt_cases registry host command before with
    ⟨error, cache, hattempt⟩ | ⟨parsed, cache, handler, -, -, hattempt⟩
  · exact .inl ((hattempt _).trans (hattempt _).symm)
  · have hlimited : limited = _ := hattempt (some limit)
    have hextended : extended = _ := hattempt deadline
    rw [hlimited, hextended]
    rcases Script.run_eq_or_prefix host (handler parsed.args) before.state before.clock hlater with
      hsame | ⟨hcut, htrace⟩
    · rw [hsame]
      exact .inl rfl
    · right
      -- Both traces begin with the start of the handler.
      simp only [Attempt.ofRun, hcut, true_and]
      exact List.cons_prefix_cons.2 ⟨rfl, htrace⟩

theorem attempt_clock (registry : Registry I) (host : Host I σ) (command : String)
    (before : Situation σ) :
    let made := attempt registry host none command before
    made.after.clock = before.clock + timeSlept made.trace := by
  intro made
  rcases attempt_cases registry host command before with
    ⟨error, cache, hattempt⟩ | ⟨parsed, cache, handler, -, -, hattempt⟩
  · have hmade : made = _ := hattempt none
    rw [hmade]
    rfl
  · have hmade : made = _ := hattempt none
    rw [hmade]
    simpa [Attempt.ofRun, Occurrence.duration] using
      Script.run_clock host (handler parsed.args) before.state before.clock

/-- An attempt that ends in time is granted whole; one that does not is cut off. -/
theorem attempt_some_cases (registry : Registry I) (host : Host I σ) (command : String)
    {before : Situation σ} {limit : Nat} (hclock : before.clock ≤ limit) :
    let whole := attempt registry host none command before
    let limited := attempt registry host (some limit) command before
    (whole.after.clock ≤ limit ∧ limited = whole) ∨
      (limit < whole.after.clock ∧ limited.outcome = none) := by
  intro whole limited
  rcases attempt_cases registry host command before with
    ⟨error, cache, hattempt⟩ | ⟨parsed, cache, handler, -, -, hattempt⟩
  · have hwhole : whole = _ := hattempt none
    refine .inl ⟨?_, (hattempt _).trans (hattempt _).symm⟩
    rw [hwhole]
    exact hclock
  · have hwhole : whole = _ := hattempt none
    have hlimited : limited = _ := hattempt (some limit)
    rw [hwhole, hlimited]
    rcases Script.run_some_cases host (handler parsed.args) before.state hclock with
      ⟨hintime, hsame⟩ | ⟨hlate, hcut⟩
    · rw [hsame]
      exact .inl ⟨hintime, rfl⟩
    · exact .inr ⟨hlate, by simp only [Attempt.ofRun, hcut]⟩

/-! ## All commands -/

theorem attempt_trace_prefix (registry : Registry I) (host : Host I σ) (deadline : Option Nat)
    (command : String) (rest : Plan) (before : Situation σ) :
    (attempt registry host deadline command before).trace <+:
      (execute registry host deadline (command :: rest) before).trace := by
  cases houtcome : (attempt registry host deadline command before).outcome with
  | none =>
    have htrace := congrArg Report.trace (execute_cons_of_cutOff houtcome rest)
    exact htrace ▸ List.prefix_rfl
  | some outcome =>
    have htrace := congrArg Report.trace (execute_cons houtcome rest)
    exact htrace ▸ List.prefix_append _ _

/-- Under a later deadline the report of a plan is the same, or the plan was cut off and begins in
the same way. -/
theorem execute_eq_or_prefix (registry : Registry I) (host : Host I σ) (plan : Plan)
    (before : Situation σ) {limit : Nat} {deadline : Option Nat}
    (hlater : NotBefore limit deadline) :
    let extended := execute registry host deadline plan before
    let limited := execute registry host (some limit) plan before
    limited = extended ∨ (limited.log = none ∧ limited.trace <+: extended.trace) := by
  induction plan generalizing before with
  | nil => exact .inl rfl
  | cons command rest ih =>
    intro extended limited
    cases houtcome : (attempt registry host (some limit) command before).outcome with
    | none =>
      -- The plan ends with its first command, so all that happens is what happens there.
      have hlimited : limited = _ := execute_cons_of_cutOff houtcome rest
      have hfirst := attempt_trace_prefix registry host deadline command rest before
      rw [hlimited]
      refine .inr ⟨rfl, ?_⟩
      rcases attempt_eq_or_prefix registry host command before hlater with hsame | ⟨-, htrace⟩
      · rw [hsame]
        exact hfirst
      · exact htrace.trans hfirst
    | some outcome =>
      rcases attempt_eq_or_prefix registry host command before hlater with hsame | ⟨hcut, -⟩
      · -- The first command does the same, and then the plans go on from the same situation.
        have hlimited : limited = _ := execute_cons houtcome rest
        rw [hsame] at houtcome hlimited
        have hextended : extended = _ := execute_cons houtcome rest
        rw [hlimited, hextended]
        rcases ih (attempt registry host deadline command before).after with
          hrest | ⟨hlog, htrace⟩
        · rw [hrest]
          exact .inl rfl
        · right
          rw [hlog]
          exact ⟨rfl, (List.prefix_append_right_inj _).2 htrace⟩
      -- An attempt with an outcome was not cut off.
      · rw [hcut] at houtcome
        cases houtcome

theorem execute_clock (registry : Registry I) (host : Host I σ) (plan : Plan)
    (before : Situation σ) :
    let report := execute registry host none plan before
    report.after.clock = before.clock + timeSlept report.trace := by
  induction plan generalizing before with
  | nil => rfl
  | cons command rest ih =>
    obtain ⟨outcome, houtcome⟩ :=
      Option.ne_none_iff_exists'.1 (attempt_outcome_ne_none registry host command before)
    have hfirst := attempt_clock registry host command before
    have hrest := ih (attempt registry host none command before).after
    simp only [execute_cons houtcome, timeSlept_append]
    omega

/-- A plan that ends in time is granted whole; one that does not has no log. -/
theorem execute_some_cases (registry : Registry I) (host : Host I σ) (plan : Plan)
    {before : Situation σ} {limit : Nat} (hclock : before.clock ≤ limit) :
    let whole := execute registry host none plan before
    let limited := execute registry host (some limit) plan before
    (whole.after.clock ≤ limit ∧ limited = whole) ∨
      (limit < whole.after.clock ∧ limited.log = none) := by
  induction plan generalizing before with
  | nil => exact .inl ⟨hclock, rfl⟩
  | cons command rest ih =>
    intro whole limited
    obtain ⟨outcome, houtcome⟩ :=
      Option.ne_none_iff_exists'.1 (attempt_outcome_ne_none registry host command before)
    have hwhole : whole = _ := execute_cons houtcome rest
    rcases attempt_some_cases registry host command hclock with
      ⟨hintime, hsame⟩ | ⟨hlate, hcut⟩
    · have hlimited : limited = _ := execute_cons (hsame ▸ houtcome) rest
      rw [hsame] at hlimited
      rw [hwhole, hlimited]
      rcases ih hintime with ⟨hrest, hothers⟩ | ⟨hrest, hlog⟩
      · rw [hothers]
        exact .inl ⟨hrest, rfl⟩
      · rw [hlog]
        exact .inr ⟨hrest, rfl⟩
    · -- The plan goes on behind this command, which can only make it later.
      have hlimited : limited = _ := execute_cons_of_cutOff hcut rest
      have hothers :=
        execute_clock registry host rest (attempt registry host none command before).after
      rw [hwhole, hlimited]
      exact .inr ⟨by simp only; omega, rfl⟩

/-! ## Time limits -/

theorem executeWithin_of_some {registry : Registry I} {host : Host I σ} (limit : Option Nat)
    {plan : Plan} {before : Situation σ} {log : Log}
    (h : (execute registry host (limit.map (before.clock + ·)) plan before).log = some log) :
    (executeWithin registry host limit plan before).1 = .ok log := by
  simp only [executeWithin, h]

theorem executeWithin_of_none {registry : Registry I} {host : Host I σ} {limit : Nat} {plan : Plan}
    {before : Situation σ}
    (h : (execute registry host (some (before.clock + limit)) plan before).log = none) :
    (executeWithin registry host (some limit) plan before).1 =
      .error (.timedOut (.ofMillis limit)) := by
  simp only [executeWithin, Option.map_some, h, Option.getD_some]

/-- A plan that sleeps no longer than the limit is run as without one; any other runs out of
time. -/
theorem executeWithin_some_cases (registry : Registry I) (host : Host I σ) (limit : Nat)
    (plan : Plan) (before : Situation σ) :
    let whole := executeWithin registry host none plan before
    let limited := executeWithin registry host (some limit) plan before
    (timeSlept whole.2.trace ≤ limit ∧ limited.1 = whole.1) ∨
      (limit < timeSlept whole.2.trace ∧ limited.1 = .error (.timedOut (.ofMillis limit)) ∧
        ∃ log, whole.1 = .ok log) := by
  intro whole limited
  obtain ⟨log, hlog⟩ := Option.ne_none_iff_exists'.1 (execute_log_ne_none registry host plan before)
  have hwhole : whole.1 = .ok log := executeWithin_of_some none hlog
  have hslept := execute_clock registry host plan before
  rw [executeWithin_report]
  -- The deadline counts from the start of the plan, so what is slept decides.
  rcases execute_some_cases registry host plan (Nat.le_add_right before.clock limit) with
    ⟨hintime, hsame⟩ | ⟨hlate, hcut⟩
  · refine .inl ⟨by simp only [Option.map_none]; omega, ?_⟩
    rw [hwhole]
    exact executeWithin_of_some (some limit) ((congrArg Report.log hsame).trans hlog)
  · refine .inr ⟨by simp only [Option.map_none]; omega, executeWithin_of_none hcut, log, hwhole⟩

theorem executeWithin_trace_prefix (registry : Registry I) (host : Host I σ) (plan : Plan)
    (before : Situation σ) {limit : Nat} {later : Option Nat} (hlater : NotBefore limit later) :
    (executeWithin registry host (some limit) plan before).2.trace <+:
      (executeWithin registry host later plan before).2.trace := by
  have hdeadline : NotBefore (before.clock + limit) (later.map (before.clock + ·)) := by
    intro deadline hmem
    obtain ⟨other, hother, rfl⟩ := Option.map_eq_some_iff.1 hmem
    exact Nat.add_le_add_left (hlater other hother) _
  rw [executeWithin_report, executeWithin_report]
  rcases execute_eq_or_prefix registry host plan before hdeadline with hsame | ⟨-, htrace⟩
  · exact hsame ▸ List.prefix_rfl
  · exact htrace

end Deskhand.Execution

namespace Deskhand.Agent

open Deskhand.Execution

variable {I : Interface} {σ : Type}

/-- The agent with another time limit. -/
def within (agent : Agent I) (limit : Option Nat) : Agent I := { agent with limit }

/-- **A time limit only truncates.** Whatever handlers do and however long they sleep: a plan under
a limit has the result that it has without one, if it sleeps no longer than the limit, and otherwise
the error that it ran out of time. What happens in it, call by call and answer by answer, is what
happens first under any later limit, or under none. -/
theorem runValue_within (agent : Agent I) (host : Host I σ) (value : Json) (before : Situation σ)
    (limit : Nat) (later : Option Nat) (hlater : ∀ other ∈ later, limit ≤ other) :
    let limited := (agent.within (some limit)).runValue host value before
    let extended := (agent.within later).runValue host value before
    let whole := (agent.within none).runValue host value before
    (limited.result = whole.result ↔ timeSlept whole.trace ≤ limit) ∧
      (limited.result = whole.result ∨
        limited.result = .error (.timedOut (.ofMillis limit))) ∧
      limited.trace <+: extended.trace := by
  unfold runValue
  cases Plan.ofJson value with
  | error error =>
    -- There is no plan to be run, and all three answer that at once.
    exact ⟨⟨fun _ => Nat.zero_le limit, fun _ => rfl⟩, .inl rfl, List.prefix_rfl⟩
  | ok plan =>
    simp only [runPlan, within]
    have htrace := executeWithin_trace_prefix agent.registry host plan before hlater
    rcases executeWithin_some_cases agent.registry host limit plan before with
      ⟨hintime, hsame⟩ | ⟨hlate, hlimited, log, hwhole⟩
    · have hresult := congrArg (Except.map fun log => PlanReport.mk plan log) hsame
      exact ⟨iff_of_true hresult hintime, .inl hresult, htrace⟩
    · rw [hlimited, hwhole]
      exact ⟨iff_of_false nofun (Nat.not_le.2 hlate), .inr rfl, htrace⟩

/-- One handler, which asks, sleeps for five milliseconds and asks again. -/
def napping : Agent ⟨Unit, fun _ => Unit⟩ :=
  .ofRegistry (Registry.empty.register "nap" fun _ =>
    .call () fun _ => .sleep 5 (.call () fun _ => .done none)) none

/-- Seven milliseconds are enough for one nap but not for two, so the second one is cut off in the
middle; what happened until then is the beginning of what happens in twelve milliseconds. -/
theorem runValue_within_napping :
    let host : Host ⟨Unit, fun _ => Unit⟩ Unit := ⟨fun _ state => (.ok (), state)⟩
    let plan := Json.ofStrings ["nap()", "nap()"]
    let before : Situation Unit := ⟨.empty none, (), 100⟩
    let limited := (napping.within (some 7)).runValue host plan before
    let extended := (napping.within (some 12)).runValue host plan before
    (∀ other ∈ some 12, 7 ≤ other) ∧ limited.result = .error (.timedOut (.ofMillis 7)) ∧
      limited.trace.length = 6 ∧ limited.trace <+: extended.trace := by
  intro host plan before limited extended
  have hlater : ∀ other ∈ some 12, 7 ≤ other := by simp
  obtain ⟨hwhole, hresult, htrace⟩ := runValue_within napping host plan before 7 (some 12) hlater
  have hslept : timeSlept ((napping.within none).runValue host plan before).trace = 10 := by
    decide +kernel
  have hlength : limited.trace.length = 6 := by decide +kernel
  refine ⟨hlater, hresult.resolve_left fun hsame => ?_, hlength, htrace⟩
  have hfits := hwhole.1 hsame
  rw [hslept] at hfits
  omega

end Deskhand.Agent
