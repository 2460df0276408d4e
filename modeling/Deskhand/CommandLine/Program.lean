/-
  Deskhand.CommandLine.Program

  The program.

  What a call of the program comes to. First the settings are settled: those of the file and the
  environment, and over them what the flags say. Then the task is done. The first thing that goes
  wrong ends the call.
-/

import Deskhand.Agent.Workplace
import Deskhand.CommandLine.Invocation
import Deskhand.Json.Writer
import Deskhand.Model.Gemini
import Deskhand.Model.Replay
import Deskhand.Settings.Document
import Deskhand.Version

namespace Deskhand.CommandLine

open Deskhand.Desk
open Deskhand.Files
open Deskhand.Text

/-- What a call finds: the environment, the files and what reads the settings in them, the bytes of
the standard input, the place where the agent works, identifiers that were not used before, the
network, and whether the system lets the program listen at an address. -/
structure Shell where
  env : Environment
  files : FileTree
  reader : Yaml.Reader := .standard
  input : List UInt8
  place : Workplace
  identifier : Nat → String
  network : Model.Gemini.Network
  refusesToListen : SocketAddress → Option String

/-- Why a call failed, and what was behind it. -/
structure Failure where
  message : String
  cause : Option String
  deriving DecidableEq, Repr

namespace Failure

def plain (message : String) : Failure := ⟨message, none⟩

def because (message cause : String) : Failure := ⟨message, some cause⟩

def indented (text : String) : String :=
  String.ofList (' ' :: ' ' :: ' ' :: ' ' ::
    replaceAll ['\n'] ['\n', ' ', ' ', ' ', ' '] text.toList)

def report (failure : Failure) : String :=
  "Error: " ++ failure.message ++
    (failure.cause.elim "" fun cause => "\n\nCaused by:\n" ++ indented cause) ++ "\n"

end Failure

/-! ## Settings -/

/-- The settings with what the flags of a call say. -/
def Invocation.apply (call : Invocation) (s : AgentSettings) : AgentSettings :=
  let s := { s with dryRun := call.dryRun || s.dryRun }
  match call.task with
  | .serve host port =>
    { s with server :=
        { s.server with host := host.getD s.server.host, port := port.getD s.server.port } }
  | _ => s

def Invocation.settings (call : Invocation) (shell : Shell) : Except Failure AgentSettings := do
  let s ← (AgentSettings.resolve shell.files shell.env call.config shell.reader).mapError fun e =>
    .because "Failed to load configuration" e.message
  let s := call.apply s
  s.validate.mapError fun e => .because "Invalid configuration" e.message
  return s

/-! ## Tasks -/

inductive Ending where
  | printed (text : String)
  | failed (failure : Failure)
  | listening (address : SocketAddress)

/-- What a call comes to: how it ends, the files that it leaves, and how many milliseconds it
took. -/
structure Result where
  ending : Ending
  files : FileTree
  clock : Nat

/-- Why bytes are no text. -/
def notText : String := "stream did not contain valid UTF-8"

def readText (files : FileTree) (path : String) : Except Failure String :=
  let refused (reason : String) : Except Failure String :=
    .error (.because ("Failed to read " ++ path) reason)
  match files.read path with
  | .error e => refused e.message
  | .ok bytes => (Utf8.decode? bytes).elim (refused notText) .ok

/-- The text of a file, or of the standard input where a lone hyphen stands for the path. -/
def readPlanText (shell : Shell) (path : String) : Except Failure String :=
  if path = "-" then (Utf8.decode? shell.input).elim (.error (.plain notText)) .ok
  else readText shell.files path

/-- The model as a generator. -/
def modelGenerator (shell : Shell) (s : AgentSettings) : Except Failure Generator := do
  let client ← (Model.Gemini.Client.create s.model).mapError fun e =>
    .because "Failed to create Gemini client" e.message
  return client.generate shell.network

/-- The failure that an error of a plan amounts to. -/
def planFailure (error : PlanError) : Failure := .plain error.message

/-- A JSON value on lines of its own. -/
def printed (value : Json) : Ending := .printed (value.indented ++ "\n")

/-- The result of a call that changed nothing. -/
def Result.quiet (shell : Shell) (ending : Ending) : Result := ⟨ending, shell.files, 0⟩

def Result.failed (shell : Shell) (failure : Failure) : Result := .quiet shell (.failed failure)

/-- The result of a call that ran a plan. -/
def Result.ofOutcome (outcome : Agent.Outcome desk (World Nat)) : Result :=
  { ending :=
      match outcome.result with
      | .ok report => printed report.toJson
      | .error error => .failed (planFailure error)
    files := outcome.after.state.files
    clock := outcome.after.clock }

def serve (shell : Shell) (s : AgentSettings) : Except Failure SocketAddress := do
  let address ← s.address.mapError fun e => .plain e.message
  let _ ← modelGenerator shell s
  match shell.refusesToListen address with
  | some reason => .error (.because ("Failed to bind " ++ address.text) reason)
  | none => .ok address

/-- The generator of a call: a recorded answer, or the model. -/
def generatorOf (shell : Shell) (s : AgentSettings) : Option String → Except Failure Generator
  | some path => (readText shell.files path).map fun answer => (⟨answer⟩ : Model.Replay).generate
  | none => modelGenerator shell s

/-- Does a task. -/
def perform (shell : Shell) (s : AgentSettings) (task : Task) : Result :=
  let agent := s.agent shell.place
  let host := s.host shell.place shell.identifier
  let start := s.start shell.files
  match task with
  | .serve .. =>
    match serve shell s with
    | .error failure => .failed shell failure
    | .ok address => .quiet shell (.listening address)
  | .run instruction replay planOnly =>
    match generatorOf shell s replay with
    | .error failure => .failed shell failure
    | .ok generate =>
      if planOnly then
        match (agent.consult generate instruction).plan with
        | .error error => .failed shell (planFailure error)
        | .ok plan => .quiet shell (printed (Plan.toJson plan))
      else .ofOutcome (agent.run host generate instruction start)
  | .exec path =>
    match readPlanText shell path with
    | .error failure => .failed shell failure
    | .ok text =>
      match Plan.extract text with
      | .error error => .failed shell (planFailure error)
      | .ok plan => .ofOutcome (agent.runPlan host plan start)

/-- What a call comes to. -/
def Invocation.perform (call : Invocation) (shell : Shell) : Result :=
  match call.settings shell with
  | .error failure => .failed shell failure
  | .ok s => CommandLine.perform shell s call.task

/-! ## What the caller sees -/

/-- The exit code and what is written to the two outputs; a program that listens does not exit. -/
structure Exit where
  code : Nat
  output : String
  errors : String
  deriving DecidableEq, Repr

def versionLine : String := "local-agent " ++ version ++ "\n"

def usage : String :=
  "Usage: local-agent [--config FILE] [--verbose] [--dry-run] TASK\n\n" ++
  "Tasks:\n" ++
  "  serve [--host HOST] [--port PORT]\n" ++
  "  run INSTRUCTION [--replay FILE] [--plan-only]\n" ++
  "  exec PLAN\n"

/-- The exit where there is nothing to do. -/
def Stop.exit : Stop → Exit
  | .help => ⟨0, usage, ""⟩
  | .version => ⟨0, versionLine, ""⟩
  | .misuse => ⟨2, "", usage⟩

/-- The exit of a call that ends. -/
def Ending.exit? : Ending → Option Exit
  | .printed text => some ⟨0, text, ""⟩
  | .failed failure => some ⟨1, "", failure.report⟩
  | .listening _ => none

end Deskhand.CommandLine
