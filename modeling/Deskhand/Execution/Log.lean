/-
  Deskhand.Execution.Log

  The execution log.

  Two entries for each command of a plan: that it was attempted, and how it ended. A log can be
  written as JSON and read back.
-/

import Deskhand.Json.Outline

namespace Deskhand.Execution

/-- Where a command stands. -/
inductive Phase where
  | attempted
  | succeeded
  | failed
  deriving DecidableEq, Repr

def Phase.name : Phase → String
  | .attempted => "attempted"
  | .succeeded => "succeeded"
  | .failed => "failed"

/-- The sign of a phase in a summary. -/
def Phase.sign : Phase → String
  | .attempted => "▶"
  | .succeeded => "✔"
  | .failed => "✖"

/-- One entry: the text of the command as it stands in the plan, its phase, and a message. -/
structure LogEntry where
  command : String
  phase : Phase
  message : Option String
  deriving DecidableEq, Repr

def LogEntry.summary (entry : LogEntry) : String :=
  let line := entry.phase.sign ++ " " ++ entry.command
  match entry.message with
  | some message => line ++ ": " ++ message
  | none => line

def LogEntry.toJson (entry : LogEntry) : Json :=
  .object ([("commandText", .string entry.command), ("phase", .string entry.phase.name)] ++
    entry.message.toList.map fun message => ("message", .string message))

def Phase.ofName? (name : String) : Option Phase :=
  [attempted, succeeded, failed].find? fun phase => phase.name == name

open Json in
/-- The phase that a JSON value stands for: its name, alone or as the only key of an object. -/
def Phase.ofOutline? : Outline → Option Phase
  | .object [(key, .null)] => (Outline.content? key).bind ofName?
  | o => o.text?.bind ofName?

open Json in
/-- The entry that a JSON record stands for. -/
def LogEntry.ofOutline? (o : Outline) : Option LogEntry := do
  match ← o.fields? ["commandText", "phase", "message"] with
  | [some command, some phase, message] =>
    return { command := ← command.text?
             phase := ← Phase.ofOutline? phase
             message := ← Outline.orDefault (Outline.nullable? Outline.text?) none message }
  | _ => none

/-- The entries of a run, in order. -/
abbrev Log := List LogEntry

namespace Log

/-- The entries that say how a command ended. -/
def outcomes (log : Log) : Log := log.filter fun entry => entry.phase != .attempted

def count (phase : Phase) (log : Log) : Nat :=
  (log.filter fun entry => entry.phase == phase).length

def toJson (log : Log) : Json := .array (log.map LogEntry.toJson)

/-- The log that a JSON text holds. -/
def ofText? (text : String) : Option Log :=
  (Json.Outline.ofText text).bind (Json.Outline.list? LogEntry.ofOutline?)

end Log

end Deskhand.Execution
