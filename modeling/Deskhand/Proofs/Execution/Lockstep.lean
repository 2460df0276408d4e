/-
  Deskhand.Proofs.Execution.Lockstep

  Runs in step.

  Two hosts, each with a state of its own, are in step as long as their states are related: then
  they give the same answers, and their states are related again. A run cannot tell such hosts
  apart. It cannot tell the time either: it sees a deadline only in what is left until then. So a
  script, a command, a plan and what an agent makes of a request come to the same in both places,
  whenever they start and whatever the faithful parse caches hold.
-/

import Deskhand.Agent.Basic
import Deskhand.Proofs.Execution.Dispatch

namespace Deskhand

open Deskhand.Execution

variable {I : Interface} {σ τ α : Type}

/-- Two hosts whose answers agree, and whose states stay related, as long as the states are. -/
structure InStep (first : Host I σ) (second : Host I τ) (R : σ → τ → Prop) : Prop where
  answer : ∀ c s t, R s t → (first.answer c s).1 = (second.answer c t).1
  state : ∀ c s t, R s t → R (first.answer c s).2 (second.answer c t).2

theorem InStep.refl (host : Host I σ) : InStep host host Eq where
  answer c s t h := by rw [h]
  state c s t h := by rw [h]

variable {first : Host I σ} {second : Host I τ} {R : σ → τ → Prop}

/-! ## Scripts -/

/-- A deadline, or none, that is `delay` later. -/
def postponed (delay : Nat) (deadline : Option Nat) : Option Nat := deadline.map (· + delay)

/-- Runs that cannot be told apart, the second one being `delay` later. -/
structure Script.Run.Matches (R : σ → τ → Prop) (delay : Nat) (run : Run I σ α)
    (other : Run I τ α) : Prop where
  ending : run.ending = other.ending
  trace : run.trace = other.trace
  state : R run.state other.state
  clock : other.clock = run.clock + delay

theorem Script.Run.Matches.after {delay : Nat} {run : Run I σ α} {other : Run I τ α}
    (h : Matches R delay run other) (event : Occurrence I) :
    Matches R delay (run.after event) (other.after event) :=
  ⟨h.ending, congrArg (event :: ·) h.trace, h.state, h.clock⟩

theorem InStep.run (h : InStep first second R) (delay : Nat) (deadline : Option Nat)
    (script : Script I α) {s : σ} {t : τ} (hstate : R s t) (clock : Nat) :
    Script.Run.Matches R delay (script.run first deadline s clock)
      (script.run second (postponed delay deadline) t (clock + delay)) := by
  induction script generalizing s t clock with
  | done value => exact ⟨rfl, rfl, hstate, rfl⟩
  | fail error => exact ⟨rfl, rfl, hstate, rfl⟩
  | call c next ih =>
    have hnext := ih (first.answer c s).1 (h.state c s t hstate) clock
    rw [Script.run, Script.run]
    simp only [← h.answer c s t hstate]
    exact hnext.after _
  | sleep ms next ih =>
    have hnext := ih hstate (clock + ms)
    -- The second run is as late behind the sleep as before it.
    rw [Nat.add_right_comm] at hnext
    cases deadline with
    | none => exact hnext.after _
    | some limit =>
      simp only [Script.run, postponed, Option.map_some]
      -- Both sleeps end in time, or neither does.
      by_cases hintime : clock + ms ≤ limit
      · rw [if_pos hintime, if_pos (by omega)]
        exact hnext.after _
      · rw [if_neg hintime, if_neg (by omega)]
        exact ⟨rfl, rfl, hstate, rfl⟩

/-! ## Commands and plans -/

namespace Execution

/-- Situations that no command can tell apart, the second one being `delay` later. -/
structure Matches (R : σ → τ → Prop) (delay : Nat) (s : Situation σ) (t : Situation τ) : Prop where
  state : R s.state t.state
  clock : t.clock = s.clock + delay
  left : s.cache.Faithful
  right : t.cache.Faithful

variable {delay : Nat} {s : Situation σ} {t : Situation τ}

/-- A command comes to the same in situations that match, and leaves them matching. -/
theorem Matches.attempt (h : Matches R delay s t) (hosts : InStep first second R)
    (registry : Registry I) (deadline : Option Nat) (command : String) :
    let made := Execution.attempt registry first deadline command s
    let other := Execution.attempt registry second (postponed delay deadline) command t
    made.outcome = other.outcome ∧ made.trace = other.trace ∧
      Matches R delay made.after other.after := by
  have hleft := (h.left.parse command).2
  have hright := (h.right.parse command).2
  rw [attempt_eq h.left, attempt_eq h.right]
  cases Command.parseFresh command with
  | error error => exact ⟨rfl, rfl, h.state, h.clock, hleft, hright⟩
  | ok parsed =>
    simp only
    cases registry.lookup parsed.name with
    | none => exact ⟨rfl, rfl, h.state, h.clock, hleft, hright⟩
    | some handler =>
      have hrun := hosts.run delay deadline (handler parsed.args) h.state s.clock
      rw [← h.clock] at hrun
      refine ⟨?_, ?_, hrun.state, hrun.clock, hleft, hright⟩
      · simp only [Attempt.ofRun]
        rw [hrun.ending]
      · exact congrArg (Occurrence.started parsed.name parsed.args :: ·) hrun.trace

theorem Matches.execute (h : Matches R delay s t) (hosts : InStep first second R)
    (registry : Registry I) (deadline : Option Nat) (plan : Plan) :
    let report := Execution.execute registry first deadline plan s
    let other := Execution.execute registry second (postponed delay deadline) plan t
    report.log = other.log ∧ report.trace = other.trace ∧
      Matches R delay report.after other.after := by
  induction plan generalizing s t with
  | nil => exact ⟨rfl, rfl, h⟩
  | cons command rest ih =>
    obtain ⟨houtcome, htrace, hafter⟩ := h.attempt hosts registry deadline command
    obtain ⟨hlog, htraces, hend⟩ := ih hafter
    simp only [Execution.execute]
    rw [← houtcome]
    cases (Execution.attempt registry first deadline command s).outcome with
    | none => exact ⟨rfl, htrace, hafter⟩
    | some outcome => exact ⟨by rw [hlog], by rw [htrace, htraces], hend⟩

theorem Matches.executeWithin (h : Matches R delay s t) (hosts : InStep first second R)
    (registry : Registry I) (limit : Option Nat) (plan : Plan) :
    let run := Execution.executeWithin registry first limit plan s
    let other := Execution.executeWithin registry second limit plan t
    run.1 = other.1 ∧ run.2.trace = other.2.trace ∧ Matches R delay run.2.after other.2.after := by
  -- The limit counts from the start of each plan, so the second deadline is later by the delay.
  have hdeadline : limit.map (t.clock + ·) = postponed delay (limit.map (s.clock + ·)) := by
    cases limit with
    | none => rfl
    | some limit =>
      simp only [postponed, Option.map_some, h.clock]
      congr 1
      omega
  obtain ⟨hlog, htrace, hafter⟩ :=
    h.execute hosts registry (limit.map (s.clock + ·)) plan
  simp only [Execution.executeWithin, hdeadline]
  rw [← hlog]
  cases (Execution.execute registry first (limit.map (s.clock + ·)) plan s).log with
  | none => exact ⟨rfl, htrace, hafter⟩
  | some log => exact ⟨rfl, htrace, hafter⟩

end Execution

/-! ## Agents -/

namespace Agent

/-- Outcomes that cannot be told apart, the second one being `delay` later. -/
structure Outcome.Matches (R : σ → τ → Prop) (delay : Nat) (outcome : Outcome I σ)
    (other : Outcome I τ) : Prop where
  prompts : outcome.prompts = other.prompts
  result : outcome.result = other.result
  after : Execution.Matches R delay outcome.after other.after
  trace : outcome.trace = other.trace

variable {delay : Nat} {s : Situation σ} {t : Situation τ}

theorem matches_runPlan (agent : Agent I) (hosts : InStep first second R)
    (h : Execution.Matches R delay s t) (plan : Plan) :
    Outcome.Matches R delay (agent.runPlan first plan s) (agent.runPlan second plan t) := by
  obtain ⟨hresult, htrace, hafter⟩ := h.executeWithin hosts agent.registry agent.limit plan
  refine ⟨rfl, ?_, hafter, htrace⟩
  simp only [runPlan, hresult]

theorem matches_runValue (agent : Agent I) (hosts : InStep first second R)
    (h : Execution.Matches R delay s t) (value : Json) :
    Outcome.Matches R delay (agent.runValue first value s) (agent.runValue second value t) := by
  unfold runValue
  cases Plan.ofJson value with
  | error error => exact ⟨rfl, rfl, h, rfl⟩
  | ok plan => exact agent.matches_runPlan hosts h plan

theorem matches_run (agent : Agent I) (hosts : InStep first second R)
    (h : Execution.Matches R delay s t) (generate : Generator) (instruction : String) :
    Outcome.Matches R delay (agent.run first generate instruction s)
      (agent.run second generate instruction t) := by
  unfold run
  simp only
  cases (agent.consult generate instruction).plan with
  | error error => exact ⟨rfl, rfl, h, rfl⟩
  | ok plan =>
    obtain ⟨-, hresult, hafter, htrace⟩ := agent.matches_runPlan hosts h plan
    exact ⟨rfl, hresult, hafter, htrace⟩

end Agent

end Deskhand
