/-
  Deskhand.Proofs.Desk.Outcomes

  The log and what really happened.

  A command of the desktop or the browser stops at the first call that fails, with the error of that
  call as its own. So the log can be believed: a command that it calls succeeded was refused
  nothing, and one that was refused something is in it as failed, with the reason that was given.
-/

import Deskhand.Proofs.Command.SharedCache
import Deskhand.Proofs.Desk.Parts

namespace Deskhand.Desk

open Deskhand.Execution
open Deskhand.Script (Always FailsAtOnce failsAtOnce_nil)

/-- The handlers of a desktop and, where one is controlled, of a browser. -/
def vocabulary (d : Desktop) (b : Option Browser) : List (String × Handler desk) :=
  d.handlers ++ b.elim [] Browser.handlers

/-- No command goes on behind a call that failed. -/
theorem always_failsAtOnce_of_mem_vocabulary {d : Desktop} {b : Option Browser} {name : String}
    {handler : Handler desk} (h : (name, handler) ∈ vocabulary d b) (args : List Argument) :
    Always FailsAtOnce (handler args) := by
  have hrefused (error : ActionError) : FailsAtOnce (I := desk) [] (.failed error) :=
    failsAtOnce_nil _
  rcases List.mem_append.1 h with hdesktop | hbrowser
  · obtain ⟨command, -, rfl⟩ := Desktop.exists_of_mem_handlers hdesktop
    exact ofParts_failsAtOnce.script hrefused d command args
  · cases b with
    | none => exact absurd hbrowser List.not_mem_nil
    | some b =>
      obtain ⟨command, -, rfl⟩ := Browser.exists_of_mem_handlers hbrowser
      exact ReadsFirst.browserScript ofParts_failsAtOnce ⟨hrefused, id⟩ b command args

/-- An entry of a log is honest about what happened at its command. If it says that the command
succeeded, no call failed. If a call failed, nothing happened after it, and the entry says that the
command failed, by its name and with the error of that call. -/
structure Honest (command : String) (trace : List (Occurrence desk)) (entry : LogEntry) : Prop where
  about : entry.command = command
  succeeded : entry.phase = .succeeded →
    ∀ c error, Occurrence.called (I := desk) c (.error error) ∉ trace
  failed : ∀ earlier c error later, trace = earlier ++ .called c (.error error) :: later →
    later = [] ∧ ∃ parsed, Command.parseFresh command = .ok parsed ∧
      entry = ⟨command, .failed, some (parsed.name ++ " failed: " ++ error.message)⟩

/-- Where no call failed, an entry is honest whatever it says. -/
theorem honest_of_forall_notMem {command : String} {trace : List (Occurrence desk)}
    {entry : LogEntry} (hcommand : entry.command = command)
    (h : ∀ c error, Occurrence.called (I := desk) c (.error error) ∉ trace) :
    Honest command trace entry where
  about := hcommand
  succeeded _ := h
  failed := by
    rintro earlier c error later rfl
    exact absurd (List.mem_append_right earlier List.mem_cons_self) (h c error)

theorem outcomeEntry_command (command : String) (outcome : Except PlanError (Option String)) :
    (outcomeEntry command outcome).command = command := by
  cases outcome <;> rfl

/-- The outcome of a run in which a call that fails is the last one goes into the log honestly. -/
theorem honest_of_failsAtOnce {σ : Type} {run : Script.Run desk σ (Option String)}
    (hrun : FailsAtOnce run.trace run.ending.withoutValue) {command : String}
    {fresh : Command.Parsed} (hfresh : Command.parseFresh command = .ok fresh)
    (args : List Argument) (cache : Command.Cache) {outcome : Except PlanError (Option String)}
    (houtcome : (Attempt.ofRun fresh.name args cache run).outcome = some outcome) :
    Honest command (Attempt.ofRun fresh.name args cache run).trace
      (outcomeEntry command outcome) := by
  by_cases hfailure : ∃ c error, Occurrence.called (I := desk) c (.error error) ∈ run.trace
  · obtain ⟨c, error, hmem⟩ := hfailure
    obtain ⟨earlier, later, htrace⟩ := List.append_of_mem hmem
    obtain ⟨rfl, hending⟩ := hrun earlier c error later htrace
    -- The run failed with the error of the call, and this is the outcome.
    have hfailed : run.ending = .failed error := by
      cases hrunning : run.ending <;> simp_all [Script.Ending.withoutValue]
    have hentry : outcomeEntry command outcome =
        ⟨command, .failed, some (fresh.name ++ " failed: " ++ error.message)⟩ := by
      obtain rfl : Except.error (.handler fresh.name error) = outcome := by
        simpa [Attempt.ofRun, hfailed] using houtcome
      rfl
    refine ⟨outcomeEntry_command command outcome, ?_, ?_⟩
    · rw [hentry]
      exact fun hphase => nomatch hphase
    · intro before asked other after hbefore
      -- The trace begins with the start of the handler, which is no call.
      cases before with
      | nil => cases (List.cons.inj hbefore).1
      | cons start before =>
        obtain ⟨rfl, hother⟩ := hrun before asked other after (List.cons.inj hbefore).2
        rw [hending] at hother
        cases hother
        exact ⟨rfl, fresh, hfresh, hentry⟩
  -- No call failed.
  · refine honest_of_forall_notMem (outcomeEntry_command command outcome) fun c error hmem => ?_
    rcases List.mem_cons.1 hmem with hstart | hlater
    · cases hstart
    · exact hfailure ⟨c, error, hlater⟩

theorem honest_attempt {σ : Type} (d : Desktop) (b : Option Browser) (host : Host desk σ)
    (deadline : Option Nat) (command : String) (before : Situation σ)
    {outcome : Except PlanError (Option String)}
    (houtcome : (attempt (.registerAll (vocabulary d b) .empty) host deadline command
      before).outcome = some outcome) :
    Honest command
      (attempt (.registerAll (vocabulary d b) .empty) host deadline command before).trace
      (outcomeEntry command outcome) := by
  rcases attempt_cases (.registerAll (vocabulary d b) .empty) host command before with
    ⟨error, cache, hattempt⟩ | ⟨parsed, cache, handler, hparse, hlookup, hattempt⟩
  -- No handler was started, so nothing happened.
  · rw [hattempt]
    exact honest_of_forall_notMem (outcomeEntry_command command outcome) fun _ _ =>
      List.not_mem_nil
  -- A handler was started, under the name that a fresh reading gives.
  · obtain ⟨fresh, hfresh, hname⟩ := Command.exists_parseFresh_of_parse hparse
    have hhandler := always_failsAtOnce_of_mem_vocabulary (mem_of_lookup hlookup) parsed.args
    have hrun := hhandler.run host deadline before.state before.clock
    rw [hattempt, ← hname] at houtcome ⊢
    exact honest_of_failsAtOnce hrun hfresh parsed.args cache houtcome

/-- A log is truthful about the attempts at the commands of a plan: to each command belongs an
attempt, and its second entry in the log is honest about what happened there. -/
def Truthful {σ : Type} (plan : Plan) (made : List (Attempt desk σ)) (log : Log) : Prop :=
  ∀ i command, plan[i]? = some command → ∃ one entry, made[i]? = some one ∧
    log[2 * i + 1]? = some entry ∧ Honest command one.trace entry

/-- **The log never reports an action that did not happen.** Whatever device, launcher, page and
files do and refuse, and whatever the parse cache holds: what happens in a plan is what happens in
the attempts at its commands, one after the other, and its log is truthful about them. Only a
deadline can leave a plan without a log. -/
theorem execute_truthful {π : Type} (d : Desktop) (b : Option Browser) (p : Peripherals π)
    (identifier : Nat → String) (deadline : Option Nat) (plan : Plan)
    (before : Situation (World π)) :
    let registry := Registry.registerAll (vocabulary d b) .empty
    let report := execute registry (host p identifier) deadline plan before
    let made := attempts registry (host p identifier) deadline plan before
    report.trace = made.flatMap Attempt.trace ∧
      ((∃ log, report.log = some log ∧ Truthful plan made log) ∨
        (report.log = none ∧ deadline ≠ none)) := by
  intro registry report made
  refine ⟨execute_trace registry (host p identifier) deadline plan before, ?_⟩
  cases hlog : report.log with
  -- Without a deadline there is always a log.
  | none =>
    right
    refine ⟨rfl, ?_⟩
    rintro rfl
    exact execute_log_ne_none registry (host p identifier) plan before hlog
  | some log =>
    refine .inl ⟨log, rfl, fun i command hcommand => ?_⟩
    obtain ⟨start, outcome, hmade, houtcome, hentry⟩ := exists_outcome_of_log hlog hcommand
    have hhonest := honest_attempt d b (host p identifier) deadline command start houtcome
    exact ⟨_, _, hmade, hentry, hhonest⟩

end Deskhand.Desk
