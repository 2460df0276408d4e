/-
  Deskhand.Desk.Device

  The input device.

  What can be asked of the pointer, the keyboard and the screen. A call that succeeded is an event;
  the events of a run are enough to say what was typed.
-/

import Deskhand.Desk.Key
import Deskhand.Error
import Deskhand.Json.Basic
import Deskhand.Text.Blank
import Deskhand.Text.Search

namespace Deskhand.Desk

open Deskhand.Text

inductive MouseButton where
  | left
  | right
  | middle
  deriving DecidableEq, Repr

def MouseButton.name : MouseButton → String
  | .left => "Left"
  | .right => "Right"
  | .middle => "Middle"

/-- The button of a name, in any letter case and with blanks around it. -/
def MouseButton.ofName? (name : String) : Option MouseButton :=
  match asciiLowercase (trim name) with
  | "left" => some .left
  | "right" => some .right
  | "middle" => some .middle
  | _ => none

inductive ScrollDirection where
  | up
  | down
  | left
  | right
  deriving DecidableEq, Repr

def ScrollDirection.name : ScrollDirection → String
  | .up => "Up"
  | .down => "Down"
  | .left => "Left"
  | .right => "Right"

inductive DeviceCall where
  | move (x y : Int)
  | click (button : MouseButton)
  | scroll (direction : ScrollDirection) (amount : Nat)
  | keyDown (key : Key)
  | keyUp (key : Key)
  | type (c : Char)
  | capture
  deriving DecidableEq, Repr

namespace DeviceCall

/-- What a call gives back: the picture of the screen as bytes, or nothing. -/
abbrev Reply : DeviceCall → Type
  | .capture => List UInt8
  | _ => Unit

/-- What a call needs, as the refusal of a device that is not there names it. -/
def purpose : DeviceCall → String
  | .move .. => "pointer movement"
  | .click _ => "mouse clicks"
  | .scroll .. => "scrolling"
  | .keyDown _ | .keyUp _ => "key presses"
  | .type _ => "typing"
  | .capture => "screen capture"

def toJson : DeviceCall → Json
  | .move x y => .object [("event", .string "move"), ("x", .ofInt x), ("y", .ofInt y)]
  | .click button => .object [("event", .string "click"), ("button", .string button.name)]
  | .scroll direction amount =>
    .object [("event", .string "scroll"), ("direction", .string direction.name),
      ("amount", .ofNat amount)]
  | .keyDown key => .object [("event", .string "key_down"), ("key", .string key.name)]
  | .keyUp key => .object [("event", .string "key_up"), ("key", .string key.name)]
  | .type c => .object [("event", .string "type"), ("c", .string (String.singleton c))]
  | .capture => .object [("event", .string "capture")]

/-- The character that a call puts into a text, the space bar giving a space. -/
def typedChar? : DeviceCall → Option Char
  | .type c => some c
  | .keyDown .space => some ' '
  | _ => none

end DeviceCall

/-- The text that some calls type. -/
def typedText (calls : List DeviceCall) : String :=
  String.ofList (calls.filterMap DeviceCall.typedChar?)

/-- The picture that stands for the screen where there is none: a PNG file of one clear pixel. -/
def placeholderPicture : List UInt8 :=
  [0x89, 0x50, 0x4E, 0x47, 0x0D, 0x0A, 0x1A, 0x0A, 0x00, 0x00, 0x00, 0x0D, 0x49, 0x48, 0x44, 0x52,
    0x00, 0x00, 0x00, 0x01, 0x00, 0x00, 0x00, 0x01, 0x08, 0x06, 0x00, 0x00, 0x00, 0x1F, 0x15, 0xC4,
    0x89, 0x00, 0x00, 0x00, 0x0A, 0x49, 0x44, 0x41, 0x54, 0x78, 0x9C, 0x63, 0x00, 0x01, 0x00, 0x00,
    0x05, 0x00, 0x01, 0x0D, 0x0A, 0x2D, 0xB4, 0x00, 0x00, 0x00, 0x00, 0x49, 0x45, 0x4E, 0x44, 0xAE,
    0x42, 0x60, 0x82]

/-- The answer to a call that succeeds. -/
def DeviceCall.success : (c : DeviceCall) → c.Reply
  | .move .. | .click _ | .scroll .. | .keyDown _ | .keyUp _ | .type _ => ()
  | .capture => placeholderPicture

/-- A device: one that only records what is asked of it, one that is not there, or one that fails as
planned: the plan gives the error of each call, which are counted from one. -/
inductive Device where
  | recording
  | unavailable
  | failing (plan : Nat → Option ActionError)

/-- The answer of a device to its `count`-th call. -/
def Device.answer (device : Device) (count : Nat) (c : DeviceCall) : Except ActionError c.Reply :=
  match device with
  | .recording => .ok c.success
  | .unavailable =>
    .error (.unsupported (c.purpose ++
      " requires native input support (build with the `native-input` feature)"))
  | .failing plan => (plan count).elim (.ok c.success) .error

end Deskhand.Desk
