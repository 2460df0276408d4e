/-
  Deskhand.CommandLine.Invocation

  Reading the command line.

  The words of a command line are taken one by one. A word is a task, a flag, the value of the flag
  before it, or an operand; behind two hyphens there are only operands. Letters may share a hyphen,
  and the last of them may have its value attached. At one level no flag may be given twice; a flag
  for the settings that is given at both levels counts as it stands with the task.
-/

import Deskhand.CommandLine.Flag
import Deskhand.Settings.Environment

namespace Deskhand.CommandLine

/-- Why there is nothing to do: help or the version was asked for, or the words make no sense. -/
inductive Stop where
  | help
  | version
  | misuse
  deriving DecidableEq, Repr

/-- What was found at a level: flags with their values, and the operand. -/
structure Found where
  flags : List (Flag × String)
  operand : Option String
  deriving DecidableEq, Repr

namespace Found

def empty : Found := ⟨[], none⟩

def value? (found : Found) (flag : Flag) : Option String := found.flags.lookup flag

def has (found : Found) (flag : Flag) : Bool := (found.value? flag).isSome

/-- One more flag. -/
def addFlag (found : Found) (flag : Flag) (value : String) : Except Stop Found :=
  if flag = .help then .error .help
  else if flag = .version then .error .version
  else if found.has flag || !flag.accepts value then .error .misuse
  else .ok { found with flags := (flag, value) :: found.flags }

/-- The operand, of which there is one at most. -/
def addOperand (found : Found) (level : Level) (word : String) : Except Stop Found :=
  if found.operand.isSome || !level.acceptsOperand word then .error .misuse
  else .ok { found with operand := some word }

end Found

/-- What the next word is expected to be. -/
inductive Awaited where
  | anything
  | value (flag : Flag)
  | operand
  deriving DecidableEq, Repr

/-- How far a command line was read: what was found before the task, the level, what was found
there, and what comes next. -/
structure Progress where
  before : Found
  level : Level
  found : Found
  awaited : Awaited
  deriving DecidableEq, Repr

namespace Progress

def start : Progress := ⟨.empty, .program, .empty, .anything⟩

/-- The progress with one more flag. -/
def addFlag (progress : Progress) (flag : Flag) (value : String) : Except Stop Progress := do
  return { progress with found := ← progress.found.addFlag flag value, awaited := .anything }

/-- The progress with an operand. -/
def addOperand (progress : Progress) (word : String) : Except Stop Progress := do
  return { progress with found := ← progress.found.addOperand progress.level word }

/-- Takes a flag by its name, `word` being what follows the two hyphens. -/
def takeName (progress : Progress) (word : List Char) : Except Stop Progress :=
  let name := word.takeWhile (· != '=')
  let attached := (word.drop name.length).drop 1
  let isAttached := name.length < word.length
  match progress.level.flag? (String.ofList name) with
  | none => .error .misuse
  | some flag =>
    if flag.takesValue then
      if isAttached then progress.addFlag flag (String.ofList attached)
      else .ok { progress with awaited := .value flag }
    else if isAttached then .error .misuse
    else progress.addFlag flag ""

/-- Takes flags by their letters. -/
def takeLetters (progress : Progress) : List Char → Except Stop Progress
  | [] => .ok progress
  | letter :: rest =>
    match progress.level.flagOfLetter? letter with
    | none => .error .misuse
    | some flag =>
      if flag.takesValue then
        match rest with
        | [] => .ok { progress with awaited := .value flag }
        -- An equals sign between a letter and its value is not part of the value.
        | '=' :: value | value => progress.addFlag flag (String.ofList value)
      else
        match progress.addFlag flag "" with
        | .ok progress => progress.takeLetters rest
        | .error stop => .error stop

/-- Takes a word that is neither a task nor a value. -/
def takeFreely (progress : Progress) (word : String) : Except Stop Progress :=
  match word.toList with
  | ['-', '-'] => .ok { progress with awaited := .operand }
  | '-' :: '-' :: name => progress.takeName name
  | '-' :: letter :: letters => progress.takeLetters (letter :: letters)
  | _ => progress.addOperand word

/-- Whether a word cannot be the value of the flag before it. A lone hyphen can. -/
def looksLikeFlag (word : String) : Bool := word.toList.head? == some '-' && word != "-"

/-- Begins with a task. Whoever asks for help may name a task and nothing else. -/
def enter (progress : Progress) (level : Level) : Progress :=
  ⟨progress.found, level, .empty, if level = .help then .operand else .anything⟩

/-- Takes the next word. -/
def take (progress : Progress) (word : String) : Except Stop Progress :=
  match progress.awaited with
  | .operand => progress.addOperand word
  | .value flag => if looksLikeFlag word then .error .misuse else progress.addFlag flag word
  | .anything =>
    match if progress.level = .program then Level.ofName? word else none with
    | some level => .ok (progress.enter level)
    | none => progress.takeFreely word

end Progress

/-! ## What is to be done -/

inductive Task where
  | serve (host : Option String) (port : Option Nat)
  | run (instruction : String) (replay : Option String) (planOnly : Bool)
  | exec (plan : String)
  deriving DecidableEq, Repr

/-- A call of the program. -/
structure Invocation where
  config : Option String
  verbose : Bool
  dryRun : Bool
  task : Task
  deriving DecidableEq, Repr

/-- The task of a level, if nothing is missing. -/
def taskOf (level : Level) (found : Found) : Except Stop Task :=
  match level, found.operand with
  | .serve, _ => .ok (.serve (found.value? .host) ((found.value? .port).bind portOf?))
  | .run, some instruction =>
    .ok (.run instruction (found.value? .replay) (found.has .planOnly))
  | .exec, some plan => .ok (.exec plan)
  | .help, _ => .error .help
  | _, _ => .error .misuse

/-- The variable that names the settings file where no flag does. -/
def configKey : String := "LOCAL_AGENT_CONFIG"

/-- The settings file that the environment names. -/
def environmentConfig? (env : Environment) : Option String :=
  (env.lookup configKey).map Text.Utf8.lenient

/-- The settings file of a call. The variable is looked at for each level without the flag, and then
it must not be empty. -/
def configOf (env : Environment) (before found : Found) : Except Stop (Option String) :=
  let named := (found.value? .config).or (before.value? .config)
  let isEverywhere := found.has .config && before.has .config
  match environmentConfig? env with
  | none => .ok named
  | some path =>
    if path.isEmpty && !isEverywhere then .error .misuse else .ok (named.or (some path))

/-- Reads a command line. -/
def Invocation.read (env : Environment) (words : List String) : Except Stop Invocation := do
  let progress ← words.foldlM Progress.take .start
  if let .value _ := progress.awaited then throw .misuse
  let { before, found, .. } := progress
  let task ← taskOf progress.level found
  return { config := ← configOf env before found
           verbose := found.has .verbose || before.has .verbose
           dryRun := found.has .dryRun || before.has .dryRun
           task }

end Deskhand.CommandLine
