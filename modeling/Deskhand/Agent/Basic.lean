/-
  Deskhand.Agent.Basic

  The agent.

  From an instruction to a plan that was run. The instruction becomes a prompt, a generator answers
  the prompt, and the plan in the answer is run under a time limit for the whole of it. A plan may
  also come from elsewhere; then the generator is not asked.

  What came of a request tells everything that can be seen of it: the prompts, the report or the
  error, the situation that is left and what happened meanwhile. An error before the plan is run
  leaves the situation as it was.
-/

import Deskhand.Execution.Executor
import Deskhand.Plan.Extraction
import Deskhand.Prompt
import Deskhand.Text.Blank

namespace Deskhand

abbrev Generator := String → String

/-- Handlers, the prompt that offers commands, and the milliseconds that a plan may take. -/
structure Agent (I : Interface) where
  registry : Registry I
  prompt : Prompt
  limit : Option Nat

/-- A plan that was run, and its log. -/
structure PlanReport where
  plan : Plan
  log : Execution.Log
  deriving DecidableEq

def PlanReport.toJson (report : PlanReport) : Json :=
  .object [("plan", Plan.toJson report.plan), ("logs", report.log.toJson)]

namespace Agent

open Deskhand.Execution

variable {I : Interface} {σ : Type}

/-- The agent whose prompt offers the commands that have handlers. -/
def ofRegistry (registry : Registry I) (limit : Option Nat) : Agent I :=
  ⟨registry, .ofRegistry registry, limit⟩

/-- What came of asking for a plan: the prompts that were answered, and the plan. -/
structure Consultation where
  prompts : List String
  plan : Except PlanError Plan

/-- Asks for a plan. Blanks around an instruction do not count, and something must be left. -/
def consult (agent : Agent I) (generate : Generator) (instruction : String) : Consultation :=
  let instruction := Text.trim instruction
  if instruction.isEmpty then
    ⟨[], .error (.invalidInstruction "Invalid or missing instruction.")⟩
  else
    let prompt := agent.prompt.build instruction
    ⟨[prompt], Plan.extract (generate prompt)⟩

/-- What came of a request. -/
structure Outcome (I : Interface) (σ : Type) where
  prompts : List String
  result : Except PlanError PlanReport
  after : Situation σ
  trace : List (Occurrence I)

/-- The outcome of a request that ended before a plan was run. -/
def Outcome.refused (prompts : List String) (error : PlanError) (before : Situation σ) :
    Outcome I σ :=
  ⟨prompts, .error error, before, []⟩

def runPlan (agent : Agent I) (host : Host I σ) (plan : Plan) (before : Situation σ) :
    Outcome I σ :=
  let (result, report) := executeWithin agent.registry host agent.limit plan before
  ⟨[], result.map fun log => ⟨plan, log⟩, report.after, report.trace⟩

/-- Runs the plan that a JSON value holds. -/
def runValue (agent : Agent I) (host : Host I σ) (value : Json) (before : Situation σ) :
    Outcome I σ :=
  match Plan.ofJson value with
  | .error error => .refused [] error before
  | .ok plan => agent.runPlan host plan before

def run (agent : Agent I) (host : Host I σ) (generate : Generator) (instruction : String)
    (before : Situation σ) : Outcome I σ :=
  let consultation := agent.consult generate instruction
  match consultation.plan with
  | .error error => .refused consultation.prompts error before
  | .ok plan => { agent.runPlan host plan before with prompts := consultation.prompts }

end Agent

end Deskhand
