/-
  Deskhand.Execution.Executor

  Running a plan.

  The commands of a plan run one after the other. Each is parsed, its handler is looked up, and the
  script of the handler runs. A command that fails at any of these steps is logged as failed and the
  next one runs all the same. Only a deadline ends a plan early, and then there is no log to report.
-/

import Deskhand.Command.Parser
import Deskhand.Execution.Log
import Deskhand.Plan.Basic
import Deskhand.Registry

namespace Deskhand.Execution

variable {I : Interface} {σ : Type}

/-- What a command finds and leaves behind: the parse cache, the state of the host and the time. -/
structure Situation (σ : Type) where
  cache : Command.Cache
  state : σ
  clock : Nat

/-- What came of one command: its outcome, or nothing if it was cut off; the situation after it; and
what happened meanwhile. -/
structure Attempt (I : Interface) (σ : Type) where
  outcome : Option (Except PlanError (Option String))
  after : Situation σ
  trace : List (Occurrence I)

/-- The attempt that a run of the handler `name` amounts to. -/
def Attempt.ofRun (name : String) (args : List Argument) (cache : Command.Cache)
    (run : Script.Run I σ (Option String)) : Attempt I σ :=
  { outcome :=
      match run.ending with
      | .done message => some (.ok message)
      | .failed error => some (.error (.handler name error))
      | .cutOff => none
    after := ⟨cache, run.state, run.clock⟩
    trace := .started name args :: run.trace }

def attempt (registry : Registry I) (host : Host I σ) (deadline : Option Nat) (command : String)
    (before : Situation σ) : Attempt I σ :=
  match Command.parse before.cache command with
  | (.error error, cache) => ⟨some (.error error), { before with cache }, []⟩
  | (.ok parsed, cache) =>
    match registry.lookup parsed.name with
    | none => ⟨some (.error (.unknownCommand parsed.name)), { before with cache }, []⟩
    | some handler =>
      .ofRun parsed.name parsed.args cache
        ((handler parsed.args).run host deadline before.state before.clock)

/-- The entry for how a command ended. -/
def outcomeEntry (command : String) : Except PlanError (Option String) → LogEntry
  | .ok message => ⟨command, .succeeded, message⟩
  | .error error => ⟨command, .failed, some error.message⟩

/-- What came of a plan: its log, or nothing if it was cut off; the situation after it; and what
happened meanwhile. -/
structure Report (I : Interface) (σ : Type) where
  log : Option Log
  after : Situation σ
  trace : List (Occurrence I)

/-- Runs the commands of a plan in order. -/
def execute (registry : Registry I) (host : Host I σ) (deadline : Option Nat) :
    Plan → Situation σ → Report I σ
  | [], situation => ⟨some [], situation, []⟩
  | command :: rest, situation =>
    let first := attempt registry host deadline command situation
    match first.outcome with
    | none => ⟨none, first.after, first.trace⟩
    | some outcome =>
      let others := execute registry host deadline rest first.after
      -- Where a later command is cut off there is no log of the earlier ones either.
      { log := others.log.map fun log =>
          ⟨command, .attempted, none⟩ :: outcomeEntry command outcome :: log
        after := others.after
        trace := first.trace ++ others.trace }

/-- Runs a plan that must be finished `limit` milliseconds after it starts, if there is a limit. -/
def executeWithin (registry : Registry I) (host : Host I σ) (limit : Option Nat) (plan : Plan)
    (situation : Situation σ) : Except PlanError Log × Report I σ :=
  let report := execute registry host (limit.map (situation.clock + ·)) plan situation
  match report.log with
  | some log => (.ok log, report)
  | none => (.error (.timedOut (.ofMillis (limit.getD 0))), report)

end Deskhand.Execution
