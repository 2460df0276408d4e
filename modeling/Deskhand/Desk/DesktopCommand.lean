/-
  Deskhand.Desk.DesktopCommand

  Desktop commands.

  The commands that work on the desktop as a person would: through keys, the pointer, programs and
  the screen. Each is a script, and each reads all its arguments before it asks for anything, save
  that `scroll` looks at the horizontal distance only after it has scrolled vertically.
-/

import Deskhand.Command.Access
import Deskhand.Desk.Chord
import Deskhand.Desk.Surroundings
import Deskhand.Desk.Timing
import Deskhand.Registry

namespace Deskhand.Desk

open Deskhand.Command (Access)
open Deskhand.Files
open Deskhand.Number
open Deskhand.Text

inductive DesktopCommand where
  | runAppByName
  | launchApp
  | openUrl
  | openFolder
  | openFile
  | focusWindow
  | typeText
  | pressKey
  | moveTo
  | clickAt
  | wait
  | scroll
  | copyClipboard
  | pasteClipboard
  | minimizeWindow
  | switchApp
  | lockWorkstation
  | mediaControl
  | playVideo
  | pauseVideo
  | closeVideo
  | takeScreenshot
  | adjustVolume
  deriving DecidableEq, Repr

def DesktopCommand.name : DesktopCommand → String
  | .runAppByName => "runAppByName"
  | .launchApp => "launchApp"
  | .openUrl => "openUrl"
  | .openFolder => "openFolder"
  | .openFile => "openFile"
  | .focusWindow => "focusWindow"
  | .typeText => "typeText"
  | .pressKey => "pressKey"
  | .moveTo => "moveTo"
  | .clickAt => "clickAt"
  | .wait => "wait"
  | .scroll => "scroll"
  | .copyClipboard => "copyClipboard"
  | .pasteClipboard => "pasteClipboard"
  | .minimizeWindow => "minimizeWindow"
  | .switchApp => "switchApp"
  | .lockWorkstation => "lockWorkstation"
  | .mediaControl => "mediaControl"
  | .playVideo => "playVideo"
  | .pauseVideo => "pauseVideo"
  | .closeVideo => "closeVideo"
  | .takeScreenshot => "takeScreenshot"
  | .adjustVolume => "adjustVolume"

def DesktopCommand.all : List DesktopCommand :=
  [.runAppByName, .launchApp, .openUrl, .openFolder, .openFile, .focusWindow, .typeText, .pressKey,
    .moveTo, .clickAt, .wait, .scroll, .copyClipboard, .pasteClipboard, .minimizeWindow, .switchApp,
    .lockWorkstation, .mediaControl, .playVideo, .pauseVideo, .closeVideo, .takeScreenshot,
    .adjustVolume]

/-! ## Reading arguments -/

def refuse {α : Type} (text : String) : Except ActionError α := .error (.invalidArguments text)

/-- A coordinate: a number of at most 31 bits, rounded. -/
def coordinate (args : Access) (index : Nat) : Except ActionError Int := do
  let value ← args.number index
  if !value.isFinite || value.abs.exceeds maxI32 then
    refuse ("coordinate " ++ value.text ++ " is out of range")
  else return value.roundToInt

/-- A count: a number from zero to 32 bits, rounded. -/
def countOf (value : Double) (what : String) : Except ActionError Nat :=
  if !value.isFinite || value.isNegative || value.exceeds maxU32 then
    refuse (what ++ " must be a non-negative number, got " ++ value.text)
  else .ok value.roundMagnitude

/-- A time in milliseconds: a number from zero, rounded, and the largest 64-bit number at most. -/
def millis (args : Access) (index : Nat) : Except ActionError Nat := do
  let value ← args.number index
  if !value.isFinite || value.isNegative then
    refuse ("wait: duration must be a non-negative number of milliseconds, got " ++ value.text)
  else return min value.roundMagnitude maxU64

/-- A waiting time, or the usual one where the argument is not there. -/
def waitOr (args : Access) (index usual : Nat) : Except ActionError Nat :=
  match args.get? index with
  | none => .ok usual
  | some _ => millis args index

/-- The button to click with, the left one where the argument is not there. -/
def buttonOr (args : Access) (index : Nat) : Except ActionError MouseButton :=
  match args.get? index with
  | none => .ok .left
  | some value =>
    match MouseButton.ofName? value.display with
    | some button => .ok button
    | none => refuse ("clickAt: unknown mouse button " ++ value.display)

/-- The keys that stand for an action of a media player. -/
def mediaChord (action : String) : Except ActionError Chord :=
  match asciiLowercase (trim action) with
  | "play" | "pause" => .ok (.single .space)
  | "fullscreen" => .ok (.single .f11)
  | "exitfullscreen" => .ok (.single .escape)
  | "mute" => .ok ⟨[], ['m']⟩
  | "next" => .ok (.single .pageDown)
  | "previous" => .ok (.single .pageUp)
  | _ => refuse ("Unknown media action: " ++ action)

/-- The key that changes the volume. -/
def volumeKey (direction : String) : Except ActionError Key :=
  match asciiLowercase (trim direction) with
  | "up" => .ok .volumeUp
  | "down" => .ok .volumeDown
  | other => refuse ("adjustVolume: direction must be up or down, got " ++ other)

/-! ## Steps on the device -/

/-- Presses the keys of a chord in order, types its characters, and lets the keys go in reverse. -/
def pressChord (chord : Chord) : DeskScript Unit := do
  Script.each (fun key => call (.keyDown key)) chord.keys
  Script.each (fun c => call (.type c)) chord.chars
  Script.each (fun key => call (.keyUp key)) chord.keys.reverse

/-- Types one character; a space is typed with the space bar. -/
def typeChar (c : Char) : DeskScript Unit :=
  if c = ' ' then pressChord (.single .space) else call (.type c)

/-! ## The commands -/

/-- A desktop: its platform, its waiting times, and the folder that relative paths start from. -/
structure Desktop where
  platform : Platform
  timing : Timing
  folder : String

namespace Desktop

/-- Presses a chord and waits for a moment. -/
def press (d : Desktop) (chord : Chord) : DeskScript Unit := do
  pressChord chord
  Script.pause d.timing.keyDelay

def typeText (d : Desktop) (text : String) : DeskScript Unit :=
  Script.each (fun c => do typeChar c; Script.pause d.timing.typeDelay) text.toList

/-- The key that turns a letter into a shortcut. -/
def shortcutKey (d : Desktop) : Key := if d.platform = .macOs then .metaLeft else .controlLeft

/-- The shortcut of a letter. -/
def shortcut (d : Desktop) (letter : Char) : Chord := ⟨[d.shortcutKey], [letter]⟩

/-- The chord that opens the search of the platform. -/
def searchChord (d : Desktop) : Chord :=
  if d.platform = .macOs then ⟨[.metaLeft, .space], []⟩ else .single .leftSuper

/-- The chord that makes a window small. -/
def minimizeChord (d : Desktop) : Chord :=
  if d.platform = .macOs then d.shortcut 'm' else ⟨[.metaLeft, .arrowDown], []⟩

/-- The chord that goes to the next application. -/
def switchChord (d : Desktop) : Chord :=
  ⟨[if d.platform = .macOs then .metaLeft else .altLeft, .tab], []⟩

/-- Starts a program and waits for it. -/
def launchAndWait (request : LaunchRequest) (ms : Nat) : DeskScript Unit := do
  launch request
  Script.pause ms

/-- Opens an application by its name: the search of the platform is opened and the name typed. -/
def runApp (d : Desktop) (name : String) : DeskScript Unit := do
  d.press d.searchChord
  Script.pause d.timing.startMenuDelay
  d.typeText name
  d.press (.single .enter)

/-- Scrolls vertically and then horizontally, by distances that may be negative. -/
def scroll (dx dy : Double) : DeskScript Unit := do
  let vertical ← Script.ofExcept (countOf dy.abs "scroll: dy")
  if 0 < vertical then
    call (.scroll (if dy.isNonnegative then .up else .down) vertical)
  let horizontal ← Script.ofExcept (countOf dx.abs "scroll: dx")
  if 0 < horizontal then
    call (.scroll (if dx.isNonnegative then .right else .left) horizontal)

def screenshot (d : Desktop) (path : String) : DeskScript (Option String) := do
  let path := Path.join d.folder path
  let picture : List UInt8 ← call .capture
  save path picture
  return some ("Screenshot saved to " ++ path)

/-- The path of a screenshot: the first argument, or else a new name. -/
def screenshotPath (args : Access) : DeskScript String := do
  match args.get? 0 with
  | some _ => Script.ofExcept (args.string 0)
  | none =>
    return "screenshot-" ++ (← newIdentifier) ++ ".png"

/-- What a command does that has no message. -/
def act (d : Desktop) (command : DesktopCommand) (args : Access) : DeskScript Unit := do
  let opening (usual : Nat) (request : String → LaunchRequest) : DeskScript Unit := do
    let ms ← Script.ofExcept (waitOr args 1 usual)
    let target ← Script.ofExcept (args.string 0)
    launchAndWait (request target) ms
  match command with
  | .runAppByName =>
    let name ← Script.ofExcept (args.string 0)
    let ms ← Script.ofExcept (waitOr args 1 d.timing.launchWait)
    d.runApp name
    Script.pause ms
  | .launchApp => opening d.timing.launchWait .ofLine
  | .openUrl => opening d.timing.urlWait (.opening d.platform)
  | .openFolder =>
    opening d.timing.launchWait fun path => .openingFolder d.platform (Path.join d.folder path)
  | .openFile =>
    opening d.timing.launchWait fun path => .opening d.platform (Path.join d.folder path)
  | .focusWindow => opening d.timing.focusWait (.focusing d.platform)
  | .typeText => d.typeText (← Script.ofExcept (args.string 0))
  | .pressKey =>
    let text ← Script.ofExcept (args.string 0)
    d.press (← Script.ofExcept (Chord.parse text))
  | .moveTo =>
    let x ← Script.ofExcept (coordinate args 0)
    let y ← Script.ofExcept (coordinate args 1)
    call (.move x y)
    Script.pause d.timing.moveSettle
  | .clickAt =>
    let x ← Script.ofExcept (coordinate args 0)
    let y ← Script.ofExcept (coordinate args 1)
    let button ← Script.ofExcept (buttonOr args 2)
    call (.move x y)
    call (.click button)
    Script.pause d.timing.clickSettle
  | .wait => Script.pause (← Script.ofExcept (millis args 0))
  | .scroll =>
    let dx ← Script.ofExcept (args.numberOr 0 (.ofNat _ 0))
    let dy ← Script.ofExcept (args.numberOr 1 (.ofNat _ 0))
    scroll dx dy
    Script.pause d.timing.scrollSettle
  | .copyClipboard => d.press (d.shortcut 'c')
  | .pasteClipboard => d.press (d.shortcut 'v')
  | .closeVideo => d.press (d.shortcut 'w')
  | .minimizeWindow => d.press d.minimizeChord
  | .switchApp => d.press d.switchChord
  | .lockWorkstation => launch (.locking d.platform)
  | .mediaControl =>
    let action ← Script.ofExcept (args.string 0)
    d.press (← Script.ofExcept (mediaChord action))
  | .playVideo | .pauseVideo => d.press (.single .space)
  | .takeScreenshot => pure ()
  | .adjustVolume =>
    let key ← Script.ofExcept (volumeKey (args.stringOr 0 "up"))
    let amount ← Script.ofExcept (args.numberOr 1 (.ofNat _ 1))
    let steps ← Script.ofExcept (countOf amount "adjustVolume: amount")
    Script.times (max steps 1) (d.press (.single key))

/-- What a command does. Only a screenshot has a message. -/
def script (d : Desktop) (command : DesktopCommand) (values : List Argument) :
    DeskScript (Option String) :=
  let args : Access := ⟨command.name, values⟩
  match command with
  | .takeScreenshot => do d.screenshot (← screenshotPath args)
  | _ => do
    d.act command args
    return none

def handlers (d : Desktop) : List (String × Handler desk) :=
  DesktopCommand.all.map fun command => (command.name, d.script command)

end Desktop

end Deskhand.Desk
