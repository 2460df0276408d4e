/-
  Deskhand.Script

  Scripts.

  What a handler does, as data. A script asks its surroundings for something and goes on with the
  answer, sleeps, fails, or is done. Which questions there are, and what kind of answer each gets,
  is an `Interface`; who answers them is a `Host`, and a run threads the host's state and a clock
  through the script. Only sleeping takes time. A deadline cuts a script off at the first sleep that
  would end after it; a sleep that ends exactly then is still granted.

  Everything that happens in a run is in its trace, in order. A script that was cut off has the
  trace of what it did before.
-/

import Deskhand.Command.Argument
import Deskhand.Error

namespace Deskhand

/-- The questions that a script may ask, and the kind of answer to each. -/
structure Interface where
  Call : Type
  Reply : Call → Type

/-- What is left to do until a value of type `α` is there. -/
inductive Script (I : Interface) (α : Type) where
  | done (value : α)
  | fail (error : ActionError)
  | call (c : I.Call) (next : Except ActionError (I.Reply c) → Script I α)
  | sleep (ms : Nat) (next : Script I α)

/-- Who answers the questions of an interface; the answers may depend on a state. -/
structure Host (I : Interface) (σ : Type) where
  answer : (c : I.Call) → σ → Except ActionError (I.Reply c) × σ

/-- Something that happened: a handler was started, a question was answered, time was slept. -/
inductive Occurrence (I : Interface) where
  | started (name : String) (args : List Argument)
  | called (c : I.Call) (answer : Except ActionError (I.Reply c))
  | slept (ms : Nat)

namespace Script

variable {I : Interface} {α β σ : Type}

/-- Goes on with `next` once the value of a script is there. -/
def bind : Script I α → (α → Script I β) → Script I β
  | .done value, next => next value
  | .fail error, _ => .fail error
  | .call c rest, next => .call c fun answer => (rest answer).bind next
  | .sleep ms rest, next => .sleep ms (rest.bind next)

instance : Monad (Script I) where
  pure := .done
  bind := .bind

/-- Asks a question. A refusal is the failure of the script. -/
def ask (c : I.Call) : Script I (I.Reply c) :=
  .call c fun
    | .ok reply => .done reply
    | .error error => .fail error

/-- A value that is there already, or a failure. -/
def ofExcept : Except ActionError α → Script I α
  | .ok value => .done value
  | .error error => .fail error

/-- Sleeps, unless for no time at all. -/
def pause (ms : Nat) : Script I Unit := if ms = 0 then .done () else .sleep ms (.done ())

def times : Nat → Script I Unit → Script I Unit
  | 0, _ => .done ()
  | count + 1, script => script.bind fun _ => times count script

def each (step : α → Script I Unit) : List α → Script I Unit
  | [] => .done ()
  | x :: rest => (step x).bind fun _ => each step rest

/-- How a run ends. -/
inductive Ending (α : Type) where
  | done (value : α)
  | failed (error : ActionError)
  | cutOff
  deriving DecidableEq

/-- A run: how it ended, the state and the time it left behind, and what happened in it. -/
structure Run (I : Interface) (σ α : Type) where
  ending : Ending α
  state : σ
  clock : Nat
  trace : List (Occurrence I)

/-- The run with one more thing that happened before it. -/
def Run.after (run : Run I σ α) (event : Occurrence I) : Run I σ α :=
  { run with trace := event :: run.trace }

/-- Runs a script from a state and a time. -/
def run (host : Host I σ) (deadline : Option Nat) : Script I α → σ → Nat → Run I σ α
  | .done value, state, clock => ⟨.done value, state, clock, []⟩
  | .fail error, state, clock => ⟨.failed error, state, clock, []⟩
  | .call c next, state, clock =>
    let (answer, state) := host.answer c state
    ((next answer).run host deadline state clock).after (.called c answer)
  | .sleep ms next, state, clock =>
    match deadline with
    | none => (next.run host none state (clock + ms)).after (.slept ms)
    | some limit =>
      if clock + ms ≤ limit then
        (next.run host (some limit) state (clock + ms)).after (.slept ms)
      else ⟨.cutOff, state, limit, []⟩

end Script

end Deskhand
