/-
  Deskhand.Error

  Errors.

  What can go wrong when a plan is read and run. An `ActionError` is the failure of one handler; a
  `PlanError` is either the failure of one command, which goes into the log and leaves the rest of
  the plan alone, or fatal, which ends the whole request.
-/

import Deskhand.Duration

namespace Deskhand

/-- Why a handler failed. -/
inductive ActionError where
  | invalidArguments (text : String)
  | unknownKey (part : String)
  | device (text : String)
  | launch (text : String)
  | io (text : String)
  | unsupported (text : String)
  deriving DecidableEq, Repr

def ActionError.message : ActionError → String
  | .invalidArguments text => "invalid arguments: " ++ text
  | .unknownKey part => "Unknown key: " ++ part
  | .device text => "device error: " ++ text
  | .launch text => "launch failed: " ++ text
  | .io text => "I/O error: " ++ text
  | .unsupported text => "unsupported: " ++ text

/-- The failure of the table writer, which counts as a failure of the device. -/
def ActionError.ofTable (text : String) : ActionError := .device ("csv: " ++ text)

/-- Why a request or one of its commands failed. -/
inductive PlanError where
  | extraction (text : String)
  | malformed (text : String)
  | empty
  | commandFormat (command : String)
  | unknownCommand (name : String)
  | handler (command : String) (source : ActionError)
  | invalidPlan (text : String)
  | invalidInstruction (text : String)
  | timedOut (limit : Duration)
  deriving DecidableEq, Repr

namespace PlanError

def message : PlanError → String
  | .extraction text => "Extraction failed: " ++ text
  | .malformed text => "Plan is malformed: " ++ text
  | .empty => "LLM returned no commands. Please rephrase your instruction."
  | .commandFormat command => "Invalid command format: " ++ command
  | .unknownCommand name => "unknown command: " ++ name ++ "()"
  | .handler command source => command ++ " failed: " ++ source.message
  | .invalidPlan text => "Invalid plan: " ++ text
  | .invalidInstruction text => text
  | .timedOut limit => "Plan timed out after " ++ limit.describe

/-- The identifier of an error for programs. -/
def code : PlanError → String
  | .extraction _ => "EXTRACTION_ERROR"
  | .malformed _ => "PLAN_MALFORMED"
  | .empty => "PLAN_EMPTY"
  | .commandFormat _ => "COMMAND_FORMAT"
  | .unknownCommand _ => "UNKNOWN_COMMAND"
  | .handler .. => "HANDLER_ERROR"
  | .invalidPlan _ => "INVALID_PLAN"
  | .invalidInstruction _ => "INVALID_INSTRUCTION"
  | .timedOut _ => "PLAN_TIMEOUT"

def isFatal : PlanError → Bool
  | .commandFormat _ | .unknownCommand _ | .handler .. => false
  | _ => true

end PlanError

end Deskhand
