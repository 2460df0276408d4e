/-
  Deskhand.Proofs.Desk.Typing

  Typing a text.

  What is asked for is typed. The text of a command to type something is a JSON string, which is
  read back whatever it holds; and typing goes through it character by character, with the space bar
  for a space and a pause after each.

  What a script does on a device that works is put together from what its parts do: the calls of one
  part follow those of the other, and the times add up.
-/

import Deskhand.Proofs.Command.Spelling
import Deskhand.Proofs.Desk.Keys
import Deskhand.Proofs.Desk.Outcomes
import Deskhand.Proofs.Execution.Dispatch
import Deskhand.Proofs.Script.Deadline

namespace Deskhand.Desk

open Deskhand.Command (Spelling)
open Deskhand.Execution
open Deskhand.Json (Plain blank_nil)
open Deskhand.Script (Always Ending Property always_ask always_ofExcept_bind always_pause
  always_pure)

/-! ## What a script does if nothing goes wrong -/

/-- A run that makes exactly these calls of the device and sleeps for so long, unless a deadline or
a failure of the device keeps it from that. -/
inductive Performs (calls : List DeviceCall) (ms : Nat) : Property desk where
  | cutOff {trace : List (Occurrence desk)} : Performs calls ms trace .cutOff
  | failed {trace : List (Occurrence desk)} {ending : Ending Unit} (c : DeviceCall)
      (error : ActionError) (failure : .called (.device c) (.error error) ∈ trace) :
      Performs calls ms trace ending
  | done {trace : List (Occurrence desk)} (made : deviceEvents trace = calls)
      (slept : timeSlept trace = ms) : Performs calls ms trace (.done ())

theorem deviceEvents_append (first rest : List (Occurrence desk)) :
    deviceEvents (first ++ rest) = deviceEvents first ++ deviceEvents rest :=
  List.filterMap_append

theorem Performs.bind {α β : Type} {first second : List DeviceCall} {ms more : Nat}
    {script : DeskScript α} {next : α → DeskScript β} (h : Always (Performs first ms) script)
    (hnext : ∀ value, Always (Performs second more) (next value)) :
    Always (Performs (first ++ second) (ms + more)) (script >>= next) := by
  refine h.bind_of hnext ?_ ?_
  · intro trace rest ending hfirst hrest
    cases hfirst with
    -- The failure is in one of the two parts, so it is in the whole.
    | failed c error failure => exact .failed c error (List.mem_append_left rest failure)
    | done made slept =>
      cases hrest with
      | cutOff => exact .cutOff
      | failed c error failure => exact .failed c error (List.mem_append_right trace failure)
      | done madeNext sleptNext =>
        refine .done ?_ ?_
        · rw [deviceEvents_append, made, madeNext]
        · rw [timeSlept_append, slept, sleptNext]
  · -- The first script stopped, so the second one does not matter.
    intro trace ending hstopped hending
    cases hstopped with
    | cutOff => exact .cutOff
    | failed c error failure => exact .failed c error failure
    | done made slept => exact absurd rfl hending

theorem always_performs_nothing {α : Type} (value : α) :
    Always (Performs [] 0) (pure value : DeskScript α) :=
  always_pure (.done rfl rfl) value

theorem always_performs_call (c : DeviceCall) : Always (Performs [c] 0) (call c) :=
  always_ask (fun _ => .done rfl rfl) fun error => .failed c error List.mem_cons_self

theorem always_performs_pause (ms : Nat) :
    Always (Performs [] ms) (Script.pause (I := desk) ms) :=
  always_pause (fun hms => .done rfl hms.symm) .cutOff (.done rfl rfl)

theorem always_performs_each {α : Type} {step : α → DeskScript Unit} {calls : α → List DeviceCall}
    {ms : Nat} (h : ∀ item, Always (Performs (calls item) ms) (step item)) (items : List α) :
    Always (Performs (items.flatMap calls) (ms * items.length)) (Script.each step items) := by
  induction items with
  | nil => exact always_performs_nothing ()
  | cons item items ih =>
    rw [List.flatMap_cons, List.length_cons, Nat.mul_succ, Nat.add_comm]
    exact Performs.bind (h item) fun _ => ih

/-! ## Typing -/

/-- The calls that type a character. -/
def strokes (c : Char) : List DeviceCall :=
  if c = ' ' then [.keyDown .space, .keyUp .space] else [.type c]

theorem typedText_strokes (chars : List Char) :
    typedText (chars.flatMap strokes) = String.ofList chars := by
  -- The two strokes of the space bar give one space.
  have hchar (c : Char) : (strokes c).filterMap DeviceCall.typedChar? = [c] := by
    unfold strokes
    split
    · next hspace => rw [hspace]; rfl
    · rfl
  have hchars : (chars.flatMap strokes).filterMap DeviceCall.typedChar? = chars := by
    rw [List.filterMap_flatMap, funext hchar]
    exact List.flatMap_singleton' chars
  rw [typedText, hchars]

theorem always_performs_space :
    Always (Performs [.keyDown .space, .keyUp .space] 0) (pressChord (.single .space)) := by
  -- The key goes down, no character is typed, and the key comes up.
  have hdown := always_performs_each (fun key => always_performs_call (.keyDown key)) [Key.space]
  have hchars := always_performs_each (fun c => always_performs_call (.type c)) []
  have hup := always_performs_each (fun key => always_performs_call (.keyUp key)) [Key.space]
  exact Performs.bind hdown fun _ => Performs.bind hchars fun _ => hup

theorem always_performs_typeChar (c : Char) : Always (Performs (strokes c) 0) (typeChar c) := by
  unfold typeChar strokes
  split
  · exact always_performs_space
  · exact always_performs_call (.type c)

theorem always_performs_typeText (d : Desktop) (text : String) :
    Always (Performs (text.toList.flatMap strokes) (d.timing.typeDelay * text.length))
      (d.typeText text) := by
  have hstep (c : Char) : Always (Performs (strokes c) d.timing.typeDelay)
      (do typeChar c; Script.pause d.timing.typeDelay) := by
    have hboth := Performs.bind (always_performs_typeChar c) fun _ =>
      always_performs_pause d.timing.typeDelay
    rwa [List.append_nil, Nat.zero_add] at hboth
  rw [← String.length_toList]
  exact always_performs_each hstep text.toList

theorem always_performs_script (d : Desktop) (text : String) :
    Always (Performs (text.toList.flatMap strokes) (d.timing.typeDelay * text.length))
      (d.script .typeText [.text text]) := by
  have hact : Always (Performs (text.toList.flatMap strokes) (d.timing.typeDelay * text.length))
      (d.act .typeText ⟨DesktopCommand.typeText.name, [.text text]⟩) :=
    always_performs_typeText d text
  exact hact.bind_pure _

/-! ## The command -/

theorem nodup_names :
    (DesktopCommand.all.map DesktopCommand.name ++
      BrowserCommand.all.map BrowserCommand.name).Nodup := by
  decide +kernel

theorem lookup_vocabulary {d : Desktop} {b : Option Browser} {name : String}
    {handler : Handler desk} (h : (name, handler) ∈ vocabulary d b) :
    (Registry.registerAll (vocabulary d b) .empty).lookup name = some handler := by
  have hdesktop : d.handlers.map Prod.fst = DesktopCommand.all.map DesktopCommand.name := by
    simp [Desktop.handlers]
  have hbrowser (b : Browser) :
      b.handlers.map Prod.fst = BrowserCommand.all.map BrowserCommand.name := by
    simp [Browser.handlers]
  -- All names are different, so those of a part of the commands are.
  have hnames : ((vocabulary d b).map Prod.fst).Nodup := by
    cases b with
    | none =>
      simp only [vocabulary, Option.elim_none, List.append_nil, hdesktop]
      exact (List.nodup_append.1 nodup_names).1
    | some b =>
      simp only [vocabulary, Option.elim_some, List.map_append, hdesktop, hbrowser]
      exact nodup_names
  exact lookup_registerAll_of_mem hnames h .empty

/-- The command that types a text, without any spaces. -/
def typing (text : String) : Spelling 0 where
  margin := []
  name := ⟨'t', "ypeText".toList, rfl, List.all_eq_true.1 rfl⟩
  gap := []
  operands := .some ⟨[], .string text, [], blank_nil, .string text, blank_nil⟩ []
  trail := []
  blankMargin := List.all_eq_true.1 rfl
  blankGap := List.all_eq_true.1 rfl
  blankTrail := List.all_eq_true.1 rfl

theorem ofList_text_typing (text : String) :
    String.ofList (typing text).text = "typeText(" ++ Json.quote text ++ ")" := by
  apply String.toList_injective
  simp [typing, Spelling.text, Command.Name.text, Command.Operands.text, Command.Operand.spelled,
    Json.Spelled.chars, Json.compactChars, Json.quote]

/-- The command is read as what it says, whatever the text is. -/
theorem parseFresh_typeText (text : String) :
    Command.parseFresh ("typeText(" ++ Json.quote text ++ ")") =
      .ok ⟨"typeText", [.text text]⟩ := by
  rw [← ofList_text_typing]
  exact (typing text).parseFresh_text (by decide)

/-- On a device that only records what is asked of it, the command does what it should. -/
theorem run_typeText {π : Type} (d : Desktop) (p : Peripherals π) (identifier : Nat → String)
    (text : String) (state : World π) (clock : Nat) :
    let run := (d.script .typeText [.text text]).run (host p.recording identifier) none state clock
    run.ending = .done none ∧ deviceEvents run.trace = text.toList.flatMap strokes ∧
      timeSlept run.trace = d.timing.typeDelay * text.length := by
  intro run
  have hperforms : Performs _ _ run.trace run.ending.withoutValue :=
    (always_performs_script d text).run (host p.recording identifier) none state clock
  -- Without a deadline nothing is cut off.
  have hcut : run.ending ≠ .cutOff := Script.run_ending_ne_cutOff _ _ _ _
  generalize hending : run.ending.withoutValue = ending at hperforms
  cases hperforms with
  | cutOff => cases hrun : run.ending <;> simp_all [Ending.withoutValue]
  | failed c error failure =>
    -- A recording device gives no errors.
    obtain ⟨before, hanswer⟩ := Script.exists_answer_of_called_mem failure
    cases hanswer
  | done made slept =>
    cases hrun : run.ending with
    | done message =>
      have hmessage : message = none := Script.eq_of_run_bind_pure hrun
      exact ⟨by rw [hmessage], made, slept⟩
    | failed error => rw [hrun] at hending; cases hending
    | cutOff => exact absurd hrun hcut

/-- **What is asked for is typed.** Whatever the text, the platform, the waiting times and the rest
of the surroundings are, and whatever the parsers that share a cache have done to it: with a
recording device, the command that types a text succeeds, its events type just that text, one stroke
after the other and nothing else, and it sleeps once for each character. -/
theorem execute_typeText {π : Type} (d : Desktop) (b : Option Browser) (p : Peripherals π)
    (identifier : Nat → String) (capacity : Option Nat) (moves : List Command.Move) (text : String)
    (state : World π) (clock : Nat) :
    let cache := ((Command.Pool.start capacity).run moves).cache
    let command := "typeText(" ++ Json.quote text ++ ")"
    let report := execute (.registerAll (vocabulary d b) .empty) (host p.recording identifier) none
      [command] ⟨cache, state, clock⟩
    report.log = some [⟨command, .attempted, none⟩, ⟨command, .succeeded, none⟩] ∧
      typedText (deviceEvents report.trace) = text ∧
      deviceEvents report.trace = text.toList.flatMap strokes ∧
      timeSlept report.trace = d.timing.typeDelay * text.length := by
  intro cache command report
  have hcache : cache.Faithful := ((Command.Pool.consistent_start capacity).run moves).cache
  have hmember : ("typeText", d.script .typeText) ∈ vocabulary d b :=
    List.mem_append_left _ (List.mem_map.2 ⟨.typeText, by decide, rfl⟩)
  let run := (d.script .typeText [.text text]).run (host p.recording identifier) none state clock
  obtain ⟨hending, hcalls, hslept⟩ : run.ending = .done none ∧ _ ∧ _ :=
    run_typeText d p identifier text state clock
  have hattempt : attempt (.registerAll (vocabulary d b) .empty) (host p.recording identifier) none
      command ⟨cache, state, clock⟩ =
      .ofRun "typeText" [.text text] (Command.parse cache command).2 run := by
    -- The cache is faithful, so the command is read as with a new one.
    rw [attempt_eq hcache]
    simp only [command, parseFresh_typeText, lookup_vocabulary hmember]
    rfl
  have hreport : report =
      { log := some [⟨command, .attempted, none⟩, ⟨command, .succeeded, none⟩]
        after := ⟨(Command.parse cache command).2, run.state, run.clock⟩
        trace := .started "typeText" [.text text] :: run.trace } := by
    simp only [report, execute, hattempt, Attempt.ofRun, hending, outcomeEntry, Option.map_some,
      List.append_nil]
  have hevents : deviceEvents report.trace = text.toList.flatMap strokes := by
    rw [hreport]
    exact hcalls
  have htyped : typedText (deviceEvents report.trace) = text := by
    rw [hevents, typedText_strokes, String.ofList_toList]
  refine ⟨by rw [hreport], htyped, hevents, ?_⟩
  rw [hreport, timeSlept_cons, hslept]
  exact Nat.zero_add _

end Deskhand.Desk
