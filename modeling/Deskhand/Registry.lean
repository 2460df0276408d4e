/-
  Deskhand.Registry

  Handlers by name.

  A handler turns the arguments of a command into a script, whose value is the message of a success.
  The registry holds handlers in ascending order of their names; a name that is given again gets the
  new handler.
-/

import Deskhand.Keyed
import Deskhand.Script
import Deskhand.Text.Quoted

namespace Deskhand

/-- What to do for a command with given arguments. -/
abbrev Handler (I : Interface) := List Argument → Script I (Option String)

/-- The handlers, in ascending order of their names. -/
structure Registry (I : Interface) where
  handlers : Keyed (Handler I)

namespace Registry

variable {I : Interface}

def empty : Registry I := ⟨[]⟩

/-- Gives a name a handler. -/
def register (name : String) (handler : Handler I) (registry : Registry I) : Registry I :=
  ⟨registry.handlers.insert name handler⟩

def registerAll (entries : List (String × Handler I)) (registry : Registry I) : Registry I :=
  entries.foldl (fun registry entry => registry.register entry.1 entry.2) registry

def lookup (name : String) (registry : Registry I) : Option (Handler I) :=
  registry.handlers.get? name

/-- Takes the handler of a name away. -/
def remove (name : String) (registry : Registry I) : Registry I :=
  ⟨registry.handlers.erase name⟩

def contains (name : String) (registry : Registry I) : Bool := (registry.lookup name).isSome

/-- The names in ascending order. -/
def names (registry : Registry I) : List String := registry.handlers.keys

def size (registry : Registry I) : Nat := registry.handlers.length

/-- A name that is registered has its new handler, and the others keep theirs. -/
theorem lookup_register (name other : String) (handler : Handler I) (registry : Registry I) :
    (registry.register name handler).lookup other =
      if name = other then some handler else registry.lookup other :=
  Keyed.get?_insert name other handler registry.handlers

/-- The registry as messages show it. -/
def describe (registry : Registry I) : String :=
  "ActionRegistry \x7b handlers: [" ++
    ", ".intercalate (registry.names.map Text.quoted) ++ "] \x7d"

end Registry

end Deskhand
