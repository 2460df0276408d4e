/-
  Deskhand.CommandLine.Flag

  Flags and tasks.

  What can be written on the command line: the tasks of the program, each at a level of its own, and
  the flags that each level knows. The flags for the settings are known at every level.
-/

import Deskhand.Number.Reading

namespace Deskhand.CommandLine

inductive Flag where
  | config
  | verbose
  | dryRun
  | host
  | port
  | replay
  | planOnly
  | help
  | version
  deriving DecidableEq, Repr

namespace Flag

def name : Flag → String
  | .config => "config"
  | .verbose => "verbose"
  | .dryRun => "dry-run"
  | .host => "host"
  | .port => "port"
  | .replay => "replay"
  | .planOnly => "plan-only"
  | .help => "help"
  | .version => "version"

def letter? : Flag → Option Char
  | .config => some 'c'
  | .verbose => some 'v'
  | .port => some 'p'
  | .help => some 'h'
  | .version => some 'V'
  | _ => none

def takesValue : Flag → Bool
  | .config | .host | .port | .replay => true
  | _ => false

end Flag

def portOf? (text : String) : Option Nat :=
  match Number.readInteger (Number.maxI64 + 1) Number.maxI64 text with
  | .ok n => if 0 ≤ n ∧ n ≤ 0xFFFF then some n.toNat else none
  | .error _ => none

/-- Whether a flag can have a value: a path is not empty, and a port is a number of 16 bits. -/
def Flag.accepts : Flag → String → Bool
  | .config, value | .replay, value => !value.isEmpty
  | .port, value => (portOf? value).isSome
  | _, _ => true

/-- A level of the command line: the program, or one of its tasks. -/
inductive Level where
  | program
  | serve
  | run
  | exec
  | help
  deriving DecidableEq, Repr

namespace Level

def ofName? : String → Option Level
  | "serve" => some .serve
  | "run" => some .run
  | "exec" => some .exec
  | "help" => some .help
  | _ => none

/-- The flags that a level knows. -/
def flags : Level → List Flag
  | .program => [.config, .verbose, .dryRun, .help, .version]
  | .serve => [.config, .verbose, .dryRun, .help, .host, .port]
  | .run => [.config, .verbose, .dryRun, .help, .replay, .planOnly]
  | .exec => [.config, .verbose, .dryRun, .help]
  | .help => []

def flag? (level : Level) (name : String) : Option Flag :=
  level.flags.find? fun flag => flag.name == name

/-- The flag of a letter. -/
def flagOfLetter? (level : Level) (letter : Char) : Option Flag :=
  level.flags.find? fun flag => flag.letter? == some letter

/-- Whether a word that is no flag can stand at a level. -/
def acceptsOperand (level : Level) (word : String) : Bool :=
  match level with
  | .run | .exec => true
  | .help => (ofName? word).isSome
  | .program | .serve => false

end Level

end Deskhand.CommandLine
