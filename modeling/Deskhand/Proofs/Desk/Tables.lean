/-
  Deskhand.Proofs.Desk.Tables

  Tables in files.

  A table of the page goes through three hands: it is written as text, the text as bytes, and the
  bytes are saved. The last two lose nothing, so the file holds the table exactly if its text does.
  The command takes any single ASCII character for the delimiter. Two of them have a meaning of
  their own in the text, the quote and the line feed, and with these the text of a table is also
  that of another one; with all others every table without empty rows is read back.
-/

import Deskhand.Desk.BrowserCommand
import Deskhand.Proofs.Csv
import Deskhand.Proofs.Files.Saving
import Deskhand.Proofs.Text.Utf8

namespace Deskhand.Desk

open Deskhand.Command (Access)
open Deskhand.Files Deskhand.Text

/-! ## Calls -/

/-- A call of the command that saves a table, with a page that gives one. -/
structure TableCall (π : Type) where
  browser : Browser
  peripherals : Peripherals π
  identifier : Nat → String
  deadline : Option Nat
  state : World π
  clock : Nat
  values : List Argument
  selector : String
  path : String
  table : List (List String)
  readsSelector : Access.string ⟨BrowserCommand.extractTable.name, values⟩ 0 = .ok selector
  readsPath : Access.string ⟨BrowserCommand.extractTable.name, values⟩ 1 = .ok path
  gives : (peripherals.page (.extract selector) state.peripherals).1 = .ok table

namespace TableCall

variable {π : Type}

/-- The text that is given for the delimiter, a comma if none is. -/
def delimiterText (call : TableCall π) : String :=
  Access.stringOr ⟨BrowserCommand.extractTable.name, call.values⟩ 2 ","

def file (call : TableCall π) : String := Path.join call.browser.folder call.path

def run (call : TableCall π) : Script.Run desk (World π) (Option String) :=
  (call.browser.script .extractTable call.values).run (host call.peripherals call.identifier)
    call.deadline call.state call.clock

def saving (call : TableCall π) (delimiter : Char) : Option FileError × FileTree :=
  call.state.files.save call.file (Utf8.encodeChars (Csv.write delimiter call.table))

/-- The table that the file holds after the call. -/
def readBack (call : TableCall π) (delimiter : Char) : Except FileError (List (List String)) :=
  (call.run.state.files.read call.file).map fun bytes => Csv.read delimiter (Utf8.leading bytes)

/-- With an accepted delimiter the table is written, and the call is done unless the file cannot be
written. -/
theorem run_eq (call : TableCall π) {delimiter : Char}
    (h : delimiterOf call.delimiterText = .ok delimiter) :
    call.run.state.files = (call.saving delimiter).2 ∧
      call.run.ending = (call.saving delimiter).1.elim
        (.done (some ("Extracted " ++ toString call.table.length ++ " rows to " ++ call.file)))
        fun error => .failed (.io error.message) := by
  have hscript : call.browser.script .extractTable call.values =
      (visit (.extract call.selector) >>= fun rows =>
        save call.file (Utf8.encodeChars (Csv.write delimiter rows)) >>= fun _ =>
          return some ("Extracted " ++ toString rows.length ++ " rows to " ++ call.file)) := by
    rw [delimiterText] at h
    show call.browser.extractTable _ = _
    rw [Browser.extractTable, call.readsSelector, call.readsPath, h]
    rfl
  obtain ⟨after, hpage⟩ : ∃ after,
      call.peripherals.page (.extract call.selector) call.state.peripherals =
        (.ok call.table, after) := ⟨_, Prod.ext call.gives rfl⟩
  have hrun : call.run = Script.run (host call.peripherals call.identifier) call.deadline
      (visit (.extract call.selector) >>= fun rows =>
        save call.file (Utf8.encodeChars (Csv.write delimiter rows)) >>= fun _ =>
          return some ("Extracted " ++ toString rows.length ++ " rows to " ++ call.file))
      call.state call.clock := by
    rw [run, hscript]
  have hfiles : call.state.files.save call.file
      (Utf8.encodeChars (Csv.write delimiter call.table)) = call.saving delimiter := rfl
  -- The call ends as the attempt to write the file does.
  cases hsave : (call.saving delimiter).1 with
  | none =>
    simp [hrun, visit, save, Script.ask, bind, Script.bind, Script.run, Script.Run.after, host,
      answer, hpage, hfiles, hsave, pure]
  | some error =>
    simp [hrun, visit, save, Script.ask, bind, Script.bind, Script.run, Script.Run.after, host,
      answer, hpage, hfiles, hsave, pure]

theorem readBack_eq (call : TableCall π) {delimiter : Char}
    (h : delimiterOf call.delimiterText = .ok delimiter)
    (hsaved : (call.saving delimiter).1 = none) :
    call.readBack delimiter = .ok (Csv.read delimiter (Csv.write delimiter call.table)) := by
  have hread : call.run.state.files.read call.file =
      .ok (Utf8.encodeChars (Csv.write delimiter call.table)) := by
    rw [(call.run_eq h).1]
    exact FileTree.read_save hsaved
  rw [readBack, hread, Except.map, Utf8.leading_encodeChars]

/-- The call is done, and the file holds the table. -/
def Succeeds (call : TableCall π) (delimiter : Char) : Prop :=
  call.run.ending = .done
      (some ("Extracted " ++ toString call.table.length ++ " rows to " ++ call.file)) ∧
    call.readBack delimiter = .ok call.table

/-- A written file holds the table exactly if the table is read back from its text. -/
theorem succeeds_iff (call : TableCall π) {delimiter : Char}
    (h : delimiterOf call.delimiterText = .ok delimiter)
    (hsaved : (call.saving delimiter).1 = none) :
    call.Succeeds delimiter ↔
      Csv.read delimiter (Csv.write delimiter call.table) = call.table := by
  have hending := (call.run_eq h).2
  rw [hsaved] at hending
  rw [Succeeds, readBack_eq call h hsaved, Except.ok.injEq]
  exact and_iff_right hending

/-- A call with a given delimiter, where there are no other files and the page gives a given table
for everything. -/
def alone (delimiter : String) (table : List (List String)) : TableCall Unit where
  browser := ⟨""⟩
  peripherals :=
    { device := fun _ _ => (.error (.device ""), ())
      launch := fun _ _ => (.ok (), ())
      page := fun
        | .extract _, _ => (.ok table, ())
        | _, _ => (.error (.device ""), ()) }
  identifier := toString
  deadline := none
  state := ⟨(), ⟨[], []⟩, 0⟩
  clock := 0
  values := [.text "table", .text "out", .text delimiter]
  selector := "table"
  path := "out"
  table := table
  readsSelector := rfl
  readsPath := rfl
  gives := rfl

theorem saving_alone (delimiterText : String) (table : List (List String)) (delimiter : Char) :
    ((alone delimiterText table).saving delimiter).1 = none := by
  show (FileTree.save ⟨[], []⟩ (Path.join "" "out") _).1 = none
  -- The content does not matter, so it is not computed.
  generalize Utf8.encodeChars (Csv.write delimiter (alone delimiterText table).table) = content
  rfl

end TableCall

/-! ## Delimiters -/

/-- **Which delimiters keep tables readable.** Take a text that is accepted for the delimiter.
Every call that is given this text, gets a table without empty rows and can write its file is done
with a file that holds the table, exactly if the delimiter is neither the quote nor the line
feed. -/
theorem extractTable_readable_iff {text : String} {delimiter : Char}
    (h : delimiterOf text = .ok delimiter) :
    (∀ (π : Type) (call : TableCall π), call.delimiterText = text →
      (∀ row ∈ call.table, row ≠ []) → (call.saving delimiter).1 = none →
        call.Succeeds delimiter) ↔ delimiter ≠ '"' ∧ delimiter ≠ '\n' := by
  constructor
  · intro hall
    have hread : ∀ table : List (List String), (∀ row ∈ table, row ≠ []) →
        Csv.read delimiter (Csv.write delimiter table) = table := by
      intro table hrows
      have hsaved := TableCall.saving_alone text table delimiter
      have hsucceeds := hall Unit (.alone text table) rfl hrows hsaved
      exact ((TableCall.alone text table).succeeds_iff h hsaved).1 hsucceeds
    constructor
    · -- A quote behind an empty field opens a quoted one.
      rintro rfl
      exact absurd (hread [["", "a"]] (by decide)) (by decide +kernel)
    · -- The fields of a record become records.
      rintro rfl
      exact absurd (hread [["a", "b"]] (by decide)) (by decide +kernel)
  · rintro ⟨hquote, hfeed⟩ π call rfl hrows hsaved
    exact (call.succeeds_iff h hsaved).2 (Csv.read_write hquote hfeed hrows)

/-- Fields with the delimiter, quotes and line breaks, empty ones and rows of different lengths. -/
theorem succeeds_semicolons :
    delimiterOf ";" = .ok ';' ∧
      (TableCall.alone ";" [["a;b", "\"\r\n"], [""], ["", "", ","]]).Succeeds ';' := by
  have hdelimiter : delimiterOf ";" = .ok ';' := rfl
  have hreadable := (extractTable_readable_iff hdelimiter).2 ⟨by decide, by decide⟩
  exact ⟨hdelimiter, hreadable Unit _ rfl (by decide) (TableCall.saving_alone _ _ _)⟩

/-- With the line feed for the delimiter a row of two fields is written like two rows of one, so
there is no reader for such tables at all. -/
theorem not_exists_reader :
    delimiterOf "\n" = .ok '\n' ∧
      Csv.write '\n' [["a", "b"]] = Csv.write '\n' [["a"], ["b"]] ∧
      ¬ ∃ reader : Char → List Char → List (List String), ∀ text delimiter,
        delimiterOf text = .ok delimiter → ∀ table : List (List String),
          (∀ row ∈ table, row ≠ []) → reader delimiter (Csv.write delimiter table) = table := by
  have hdelimiter : delimiterOf "\n" = .ok '\n' := rfl
  have hsame : Csv.write '\n' [["a", "b"]] = Csv.write '\n' [["a"], ["b"]] := by decide +kernel
  refine ⟨hdelimiter, hsame, ?_⟩
  rintro ⟨reader, hreader⟩
  have hone := hreader "\n" '\n' hdelimiter [["a", "b"]] (by decide)
  have htwo := hreader "\n" '\n' hdelimiter [["a"], ["b"]] (by decide)
  rw [hsame, htwo] at hone
  exact absurd hone (by decide)

end Deskhand.Desk
