/-
  Deskhand.Proofs.Desk.SavedFiles

  What commands do to files.

  Three commands write a file, and writing it is the last thing that they do: a picture or a table
  is taken first, and the arguments are read before that. So a command that fails, wherever it does,
  has written nothing, and one that succeeds has written the file that its message names, or none.
-/

import Deskhand.Proofs.Desk.Outcomes
import Deskhand.Proofs.Files.Frame

namespace Deskhand.Desk

open Deskhand.Command (Access)
open Deskhand.Execution
open Deskhand.Files Deskhand.Files.FileTree
open Deskhand.Script (Always Property always_ask always_pure)

variable {π : Type} {p : Peripherals π} {identifier : Nat → String} {deadline : Option Nat}

/-! ## Commands that write nothing -/

/-- What a run that is done says about a file: its path, and the content that it is to have. -/
abbrev Announcing := List (Occurrence desk) → Option String → String → List UInt8 → Prop

section Frames

variable {A : Announcing} {state : World π} {clock : Nat}

end Frames

/-! ## What is announced -/

/-- What a command that is done says about a file. A picture of the screen or of a part of the page
is to be there as it was taken, and a table as the text of the rows that the page gave. -/
inductive Announces : Announcing
  | screen {values : List Argument} {path : String} {picture : List UInt8} :
      Announces
        [.started DesktopCommand.takeScreenshot.name values,
          .called (.device .capture) (.ok picture), .called (.save path picture) (.ok ())]
        (some ("Screenshot saved to " ++ path)) path picture
  | newScreen {values : List Argument} {new path : String} {picture : List UInt8} :
      Announces
        [.started DesktopCommand.takeScreenshot.name values, .called .identifier (.ok new),
          .called (.device .capture) (.ok picture), .called (.save path picture) (.ok ())]
        (some ("Screenshot saved to " ++ path)) path picture
  | region {values : List Argument} {selector path : String} {picture : List UInt8} :
      Announces
        [.started BrowserCommand.screenshotRegion.name values,
          .called (.page (.picture selector)) (.ok picture), .called (.save path picture) (.ok ())]
        (some ("Screenshot saved to " ++ path)) path picture
  | table {values : List Argument} {selector path : String} {rows : List (List String)}
      {delimiter : Char}
      (hdelimiter : delimiterOf (Access.stringOr ⟨BrowserCommand.extractTable.name, values⟩ 2 ",") =
        .ok delimiter) :
      Announces
        [.started BrowserCommand.extractTable.name values,
          .called (.page (.extract selector)) (.ok rows),
          .called (.save path (Text.Utf8.encodeChars (Csv.write delimiter rows))) (.ok ())]
        (some ("Extracted " ++ toString rows.length ++ " rows to " ++ path)) path
        (Text.Utf8.encodeChars (Csv.write delimiter rows))

section Commands

variable {state : World π} {clock : Nat}

end Commands

theorem Announces.message {trace : List (Occurrence desk)} {message : Option String}
    {path : String} {content : List UInt8} (h : Announces trace message path content) :
    message = some ("Screenshot saved to " ++ path) ∨
      ∃ count : Nat, message = some ("Extracted " ++ toString count ++ " rows to " ++ path) := by
  cases h with
  | screen => exact .inl rfl
  | newScreen => exact .inl rfl
  | region => exact .inl rfl
  | table => exact .inr ⟨_, rfl⟩

end Deskhand.Desk
