/-
  Deskhand.Desk.Surroundings

  Surroundings of the desk.

  Everything that a desktop or browser command may ask for: the input device, the launcher, the page
  of the browser, files, and an identifier that was not used before. The first three are
  peripherals, which may behave in any way at all; files are kept in a tree.
-/

import Deskhand.Command.Argument
import Deskhand.Desk.Device
import Deskhand.Desk.Launch
import Deskhand.Files.Tree
import Deskhand.Script

namespace Deskhand.Desk

open Deskhand.Files

/-- A call of the page that the browser shows. -/
inductive PageCall where
  | navigate (url : String)
  | click (selector : String)
  | type (selector text : String)
  | extract (selector : String)
  | picture (selector : String)
  | flow (name : String) (params : List Argument)

/-- What a call of the page gives back: the rows of a table, a picture, the message of a flow. -/
abbrev PageCall.Reply : PageCall → Type
  | .extract _ => List (List String)
  | .picture _ => List UInt8
  | .flow .. => Option String
  | _ => Unit

/-- What a command may ask for. -/
inductive DeskCall where
  | device (c : DeviceCall)
  | launch (request : LaunchRequest)
  | page (c : PageCall)
  | save (path : String) (content : List UInt8)
  | identifier

/-- The kind of answer to each question. -/
abbrev DeskCall.Reply : DeskCall → Type
  | .device c => c.Reply
  | .launch _ => Unit
  | .page c => c.Reply
  | .save .. => Unit
  | .identifier => String

/-- The questions of the desk. -/
abbrev desk : Interface := ⟨DeskCall, DeskCall.Reply⟩

/-- What a desktop or browser command does. -/
abbrev DeskScript (α : Type) := Script desk α

/-- One call of the device. -/
def call (c : DeviceCall) : DeskScript c.Reply := Script.ask (I := desk) (.device c)

def launch (request : LaunchRequest) : DeskScript Unit := Script.ask (I := desk) (.launch request)

def visit (c : PageCall) : DeskScript c.Reply := Script.ask (I := desk) (.page c)

def save (path : String) (content : List UInt8) : DeskScript Unit :=
  Script.ask (I := desk) (.save path content)

def newIdentifier : DeskScript String := Script.ask (I := desk) .identifier

/-! ## Who answers -/

/-- Device, launcher and page, over a state of their own. -/
structure Peripherals (π : Type) where
  device : (c : DeviceCall) → π → Except ActionError c.Reply × π
  launch : LaunchRequest → π → Except ActionError Unit × π
  page : (c : PageCall) → π → Except ActionError c.Reply × π

/-- The state of the surroundings: that of the peripherals, the files, and how many identifiers
were given out. -/
structure World (π : Type) where
  peripherals : π
  files : FileTree
  identifiers : Nat

variable {π : Type}

/-- Answers with peripherals and with a list of identifiers. -/
def answer (peripherals : Peripherals π) (identifier : Nat → String) :
    (c : DeskCall) → World π → Except ActionError c.Reply × World π
  | .device c, world =>
    let (reply, state) := peripherals.device c world.peripherals
    (reply, { world with peripherals := state })
  | .launch request, world =>
    let (reply, state) := peripherals.launch request world.peripherals
    (reply, { world with peripherals := state })
  | .page c, world =>
    let (reply, state) := peripherals.page c world.peripherals
    (reply, { world with peripherals := state })
  | .save path content, world =>
    let (failure, files) := world.files.save path content
    (failure.elim (.ok ()) fun error => .error (.io error.message), { world with files })
  | .identifier, world =>
    (.ok (identifier world.identifiers), { world with identifiers := world.identifiers + 1 })

def host (peripherals : Peripherals π) (identifier : Nat → String) : Host desk (World π) :=
  ⟨answer peripherals identifier⟩

/-- A page that answers each call in the same way whenever it comes. -/
abbrev Page := (c : PageCall) → Except ActionError c.Reply

/-- Where no browser is controlled, every call of the page fails. -/
def noPage : Page := fun _ => .error (.unsupported "no browser session")

/-- The peripherals made of a device, a launcher and a page; their state is the number of device
calls so far. -/
def Peripherals.of (device : Device) (launcher : Launcher) (page : Page) : Peripherals Nat where
  device c count := (device.answer (count + 1) c, count + 1)
  launch request count := (launcher.answer request, count)
  page c count := (page c, count)

/-! ## What can be seen of a run -/

/-- The device calls of a run that succeeded. -/
def deviceEvents (trace : List (Occurrence desk)) : List DeviceCall :=
  trace.filterMap fun
    | .called (.device c) (.ok _) => some c
    | _ => none

/-- The launch requests of a run that succeeded. -/
def launched (trace : List (Occurrence desk)) : List LaunchRequest :=
  trace.filterMap fun
    | .called (.launch request) (.ok _) => some request
    | _ => none

/-- The page calls of a run that succeeded. -/
def pageCalls (trace : List (Occurrence desk)) : List PageCall :=
  trace.filterMap fun
    | .called (.page c) (.ok _) => some c
    | _ => none

end Deskhand.Desk
