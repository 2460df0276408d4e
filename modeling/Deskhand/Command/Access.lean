/-
  Deskhand.Command.Access

  Access to arguments.

  Language models are not consistent about quotes, so a handler that wants a number takes a text
  that reads as one, and a handler that wants a text takes anything.
-/

import Deskhand.Command.Argument
import Deskhand.Error
import Deskhand.Number.Reading
import Deskhand.Text.Blank

namespace Deskhand.Command

open Deskhand.Text

/-- The arguments of a command, with its name for messages. -/
structure Access where
  command : String
  values : List Argument

namespace Access

/-- The argument at a position, counted from zero. -/
def get? (a : Access) (index : Nat) : Option Argument := a.values[index]?

/-- The error of an argument that is not there. -/
def missing (a : Access) (index : Nat) (kind : String) : ActionError :=
  .invalidArguments (a.command ++ ": missing " ++ kind ++ " argument " ++ toString (index + 1))

/-- The text of an argument, whatever it is. -/
def string (a : Access) (index : Nat) : Except ActionError String :=
  match a.get? index with
  | some value => .ok value.display
  | none => .error (a.missing index "string")

/-- The text of an argument, or `default` where there is none. -/
def stringOr (a : Access) (index : Nat) (default : String) : String :=
  ((a.get? index).map Argument.display).getD default

/-- The number that an argument stands for. -/
def numberOf? : Argument → Option Number.Double
  | .number value => some value
  | .text value | .token value => Number.read? Number.binary64 (trim value)
  | .pattern .. => none

def number (a : Access) (index : Nat) : Except ActionError Number.Double :=
  match a.get? index with
  | none => .error (a.missing index "number")
  | some value =>
    match numberOf? value with
    | some x => .ok x
    | none =>
      .error (.invalidArguments (a.command ++ ": argument " ++ toString (index + 1) ++
        " must be a number, got " ++ value.display))

def numberOr (a : Access) (index : Nat) (default : Number.Double) :
    Except ActionError Number.Double :=
  match a.get? index with
  | none => .ok default
  | some _ => a.number index

end Access

end Deskhand.Command
