/-
  Deskhand.Command.Parser

  Reading a command.

  A command is a name and, between parentheses, its arguments; blanks may stand around the name and
  after the closing parenthesis. The opening parenthesis is the first one and the closing one the
  last character that is not blank, so the argument text may hold parentheses of its own.
-/

import Deskhand.Command.Cache
import Deskhand.Command.Strategy
import Deskhand.Error

namespace Deskhand.Command

open Deskhand.Text

/-- A command taken apart. -/
structure Parsed where
  name : String
  args : List Argument
  deriving DecidableEq

def isNameStart (c : Char) : Bool := c.isAlpha || c == '_'

def isNameChar (c : Char) : Bool := c.isAlphanum || c == '_'

/-- The text before a final closing parenthesis. -/
def beforeClosing? (s : List Char) : Option (List Char) :=
  let kept := trimRight s
  if kept.getLast? = some ')' then some kept.dropLast else none

/-- The name and the argument text of a command. -/
def split? (s : List Char) : Option (List Char × List Char) :=
  let s := trimLeft s
  let name := s.takeWhile isNameChar
  if name.head?.any isNameStart then
    match trimLeft (s.dropWhile isNameChar) with
    | '(' :: rest => (beforeClosing? rest).map fun args => (name, args)
    | _ => none
  else none

/-- Reads a command. The shape is checked first; then the cache is looked up, and what it does not
hold is read and offered to it. -/
def parse (cache : Cache) (command : String) : Except PlanError Parsed × Cache :=
  match split? command.toList with
  | none => (.error (.commandFormat command), cache)
  | some (name, text) =>
    match cache.get? command with
    | some args => (.ok ⟨String.ofList name, args⟩, cache)
    | none =>
      let (args, cache) := cache.insert command (readArguments text)
      (.ok ⟨String.ofList name, args⟩, cache)

def parseFresh (command : String) : Except PlanError Parsed :=
  match split? command.toList with
  | none => .error (.commandFormat command)
  | some (name, text) => .ok ⟨String.ofList name, readArguments text⟩

end Deskhand.Command
