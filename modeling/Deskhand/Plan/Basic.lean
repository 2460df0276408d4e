/-
  Deskhand.Plan.Basic

  Plans.

  A plan is a list of command texts in the order in which they run. It comes as a JSON array. An
  item that is no string is kept as its JSON text: it cannot be a command, and so it will fail on
  its own, without disturbing its neighbours.
-/

import Deskhand.Error
import Deskhand.Json.Outline
import Deskhand.Json.Writer

namespace Deskhand

/-- The commands of a plan, in order. -/
abbrev Plan := List String

namespace Plan

/-- The command that an item of an array stands for. -/
def commandOf : Json → String
  | .string command => command
  | other => other.compact

def ofJson : Json → Except PlanError Plan
  | .array items => .ok (items.map commandOf)
  | other => .error (.invalidPlan ("expected an array of commands, got " ++ other.kind))

/-- The plan that a JSON text holds; here every item must be a string. -/
def ofText? (text : String) : Option Plan :=
  (Json.Outline.ofText text).bind (Json.Outline.list? Json.Outline.text?)

def toJson (plan : Plan) : Json := Json.ofStrings plan

end Plan

end Deskhand
