/-
  Deskhand.Desk.BrowserCommand

  Browser commands.

  The commands that work on the page of a controlled browser. Tables and pictures that they take
  from the page are saved to files.
-/

import Deskhand.Command.Access
import Deskhand.Csv
import Deskhand.Desk.Surroundings
import Deskhand.Registry
import Deskhand.Text.Quoted
import Deskhand.Text.Utf8

namespace Deskhand.Desk

open Deskhand.Command (Access)
open Deskhand.Files

inductive BrowserCommand where
  | navigate
  | clickSelector
  | typeSelector
  | extractTable
  | screenshotRegion
  | orderFlow
  deriving DecidableEq, Repr

def BrowserCommand.name : BrowserCommand → String
  | .navigate => "navigate"
  | .clickSelector => "clickSelector"
  | .typeSelector => "typeSelector"
  | .extractTable => "extractTable"
  | .screenshotRegion => "screenshotRegion"
  | .orderFlow => "orderFlow"

def BrowserCommand.all : List BrowserCommand :=
  [.navigate, .clickSelector, .typeSelector, .extractTable, .screenshotRegion, .orderFlow]

/-- The delimiter of a table: a single ASCII character. -/
def delimiterOf (text : String) : Except ActionError Char :=
  let refused : Except ActionError Char :=
    .error (.invalidArguments ("extractTable: delimiter must be a single ASCII character, got " ++
      Text.quoted text))
  match text.toList with
  | [c] => if c.toNat < 0x80 then .ok c else refused
  | _ => refused

/-- A browser, by the folder that relative paths of its files start from. -/
structure Browser where
  folder : String

namespace Browser

/-- Saves a table of the page. -/
def extractTable (b : Browser) (args : Access) : DeskScript (Option String) := do
  let selector ← Script.ofExcept (args.string 0)
  let path ← Script.ofExcept (args.string 1)
  let path := Path.join b.folder path
  let delimiter ← Script.ofExcept (delimiterOf (args.stringOr 2 ","))
  let rows : List (List String) ← visit (.extract selector)
  save path (Text.Utf8.encodeChars (Csv.write delimiter rows))
  return some ("Extracted " ++ toString rows.length ++ " rows to " ++ path)

/-- Saves a picture of a part of the page. -/
def screenshotRegion (b : Browser) (args : Access) : DeskScript (Option String) := do
  let selector ← Script.ofExcept (args.string 0)
  let path ← Script.ofExcept (args.string 1)
  let path := Path.join b.folder path
  let picture : List UInt8 ← visit (.picture selector)
  save path picture
  return some ("Screenshot saved to " ++ path)

/-- What a command does. -/
def script (b : Browser) (command : BrowserCommand) (values : List Argument) :
    DeskScript (Option String) := do
  let args : Access := ⟨command.name, values⟩
  match command with
  | .navigate =>
    let url ← Script.ofExcept (args.string 0)
    visit (.navigate url)
    return none
  | .clickSelector =>
    let selector ← Script.ofExcept (args.string 0)
    visit (.click selector)
    return none
  | .typeSelector =>
    let selector ← Script.ofExcept (args.string 0)
    let text ← Script.ofExcept (args.string 1)
    visit (.type selector text)
    return none
  | .extractTable => b.extractTable args
  | .screenshotRegion => b.screenshotRegion args
  | .orderFlow =>
    let name ← Script.ofExcept (args.string 0)
    visit (.flow name values.tail)

def handlers (b : Browser) : List (String × Handler desk) :=
  BrowserCommand.all.map fun command => (command.name, b.script command)

end Browser

end Deskhand.Desk
