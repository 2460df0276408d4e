/-
  Deskhand.Proofs.Desk.Parts

  What commands are made of.

  Every desktop or browser command is put together from a few kinds of parts: chords, calls that are
  no key presses, sleeps, and arguments that are read or refused. A property that goes over from
  parts to the whole therefore holds of all commands once it holds of these parts. The traversal of
  the commands is made once, here.
-/

import Deskhand.Desk.BrowserCommand
import Deskhand.Desk.DesktopCommand
import Deskhand.Proofs.Execution.Attempts

namespace Deskhand.Desk

open Deskhand.Command (Access)
open Deskhand.Execution
open Deskhand.Script (Always FailsAtOnce Property Sequential always_failsAtOnce_ask
  always_ofExcept_bind always_pause always_pure failsAtOnce_nil failsAtOnce_of_forall_notMem
  sequential_failsAtOnce)

/-- Whether a call presses a key or lets it go. -/
def DeskCall.isKey : DeskCall → Bool
  | .device (.keyDown _) | .device (.keyUp _) => true
  | _ => false

def DeskCall.isSave : DeskCall → Bool
  | .save .. => true
  | _ => false

/-- A property that goes over from parts to the whole and holds of everything that acts, writing a
file apart. -/
structure OfActs (P : Property desk) : Prop extends Sequential P where
  cutOff : P [] .cutOff
  slept : ∀ ms, P [.slept ms] (.done ())
  asked : ∀ c : DeskCall, c.isKey = false → c.isSave = false → Always P (Script.ask (I := desk) c)
  chord : ∀ chord, Always P (pressChord chord)

/-- A property that goes over from parts to the whole and holds of everything that acts. -/
structure OfParts (P : Property desk) : Prop extends Sequential P where
  cutOff : P [] .cutOff
  slept : ∀ ms, P [.slept ms] (.done ())
  asked : ∀ c : DeskCall, c.isKey = false → Always P (Script.ask (I := desk) c)
  chord : ∀ chord, Always P (pressChord chord)

theorem always_pressChord {P : Property desk} (hP : Sequential P)
    (hcall : ∀ c, Always P (call c)) (chord : Chord) : Always P (pressChord chord) := by
  refine hP.bind (hP.each fun key _ => hcall _) fun _ => ?_
  refine hP.bind (hP.each fun c _ => hcall _) fun _ => ?_
  exact hP.each fun key _ => hcall _

/-- No part goes on behind a call that failed. -/
theorem ofParts_failsAtOnce : OfParts FailsAtOnce where
  toSequential := sequential_failsAtOnce
  cutOff := failsAtOnce_nil _
  slept _ := failsAtOnce_of_forall_notMem (by simp) _
  asked c _ := always_failsAtOnce_ask (I := desk) c
  chord := always_pressChord sequential_failsAtOnce fun _ => always_failsAtOnce_ask (I := desk) _

theorem OfParts.ofActs {P : Property desk} (hP : OfParts P) : OfActs P where
  toSequential := hP.toSequential
  cutOff := hP.cutOff
  slept := hP.slept
  asked c hkey _ := hP.asked c hkey
  chord := hP.chord

/-! ## The parts that act -/

namespace OfActs

variable {P : Property desk}

theorem pause (hP : OfActs P) (ms : Nat) : Always P (Script.pause (I := desk) ms) :=
  always_pause (fun _ => hP.nothing) hP.cutOff (hP.slept ms)

theorem press (hP : OfActs P) (d : Desktop) (chord : Chord) : Always P (d.press chord) :=
  hP.bind (hP.chord chord) fun _ => hP.pause _

theorem typeText (hP : OfActs P) (d : Desktop) (text : String) : Always P (d.typeText text) := by
  have hchar (c : Char) : Always P (typeChar c) := by
    unfold typeChar
    split
    · exact hP.chord _
    · exact hP.asked _ rfl rfl
  exact hP.each fun c _ => hP.bind (hchar c) fun _ => hP.pause _

theorem runApp (hP : OfActs P) (d : Desktop) (name : String) : Always P (d.runApp name) := by
  refine hP.bind (hP.press d _) fun _ => ?_
  refine hP.bind (hP.pause _) fun _ => ?_
  exact hP.bind (hP.typeText d name) fun _ => hP.press d _

theorem launchAndWait (hP : OfActs P) (request : LaunchRequest) (ms : Nat) :
    Always P (Desktop.launchAndWait request ms) :=
  hP.bind (hP.asked _ rfl rfl) fun _ => hP.pause ms

end OfActs

theorem OfParts.pause {P : Property desk} (hP : OfParts P) (ms : Nat) :
    Always P (Script.pause (I := desk) ms) := hP.ofActs.pause ms

theorem OfParts.screenshot {P : Property desk} (hP : OfParts P) (d : Desktop) (path : String) :
    Always P (d.screenshot path) := by
  refine hP.bind (hP.asked _ rfl) fun picture => ?_
  exact hP.bind (hP.asked _ rfl) fun _ => always_pure hP.nothing _

/-! ## Whole commands

All commands read their arguments first, `scroll` apart, and act then. So it is enough to know that
a property of acting is one of the whole, and that the whole may be refused before anything
happened.
-/

/-- A property of runs that act as `P` says, or are refused before they do anything. -/
structure ReadsFirst (P R : Property desk) : Prop where
  refused : ∀ error, R [] (.failed error)
  acting : ∀ {trace ending}, P trace ending → R trace ending

namespace ReadsFirst

variable {P R : Property desk}

theorem read (hR : ReadsFirst P R) {α β : Type} {value : Except ActionError α}
    {next : α → DeskScript β} (h : ∀ read, Always R (next read)) :
    Always R (Script.ofExcept value >>= next) :=
  always_ofExcept_bind (fun read _ => h read) fun error _ => hR.refused error

theorem act (hR : ReadsFirst P R) {α : Type} {script : DeskScript α} (h : Always P script) :
    Always R script :=
  h.mono fun _ _ => hR.acting

section Acting

variable (hP : OfActs P) (hR : ReadsFirst P R)

include hP hR

/-- The commands that start a program for their first argument. -/
theorem opening (args : Access) (usual : Nat) (request : String → LaunchRequest) :
    Always R (do
      let ms ← Script.ofExcept (waitOr args 1 usual)
      let target ← Script.ofExcept (args.string 0)
      Desktop.launchAndWait (request target) ms) :=
  hR.read fun ms => hR.read fun _ => hR.act (hP.launchAndWait _ ms)

theorem desktopAct (d : Desktop) {command : DesktopCommand} (hcommand : command ≠ .scroll)
    (args : Access) : Always R (d.act command args) := by
  unfold Desktop.act
  cases command with
  | runAppByName =>
    refine hR.read fun name => hR.read fun ms => hR.act ?_
    exact hP.bind (hP.runApp d name) fun _ => hP.pause ms
  -- A program is started for the first argument.
  | launchApp => exact hR.opening hP args _ _
  | openUrl => exact hR.opening hP args _ _
  | openFolder => exact hR.opening hP args _ _
  | openFile => exact hR.opening hP args _ _
  | focusWindow => exact hR.opening hP args _ _
  | typeText => exact hR.read fun text => hR.act (hP.typeText d text)
  | pressKey => exact hR.read fun text => hR.read fun chord => hR.act (hP.press d chord)
  | moveTo =>
    refine hR.read fun x => hR.read fun y => hR.act ?_
    exact hP.bind (hP.asked _ rfl rfl) fun _ => hP.pause _
  | clickAt =>
    refine hR.read fun x => hR.read fun y => hR.read fun button => hR.act ?_
    exact hP.bind (hP.asked _ rfl rfl) fun _ => hP.bind (hP.asked _ rfl rfl) fun _ => hP.pause _
  | wait => exact hR.read fun ms => hR.act (hP.pause ms)
  | scroll => exact absurd rfl hcommand
  -- The keys are those of the platform, whatever the arguments are.
  | copyClipboard => exact hR.act (hP.press d _)
  | pasteClipboard => exact hR.act (hP.press d _)
  | closeVideo => exact hR.act (hP.press d _)
  | minimizeWindow => exact hR.act (hP.press d _)
  | switchApp => exact hR.act (hP.press d _)
  | lockWorkstation => exact hR.act (hP.asked _ rfl rfl)
  | mediaControl => exact hR.read fun action => hR.read fun chord => hR.act (hP.press d chord)
  | playVideo => exact hR.act (hP.press d _)
  | pauseVideo => exact hR.act (hP.press d _)
  | takeScreenshot => exact hR.act (always_pure hP.nothing _)
  | adjustVolume =>
    refine hR.read fun key => hR.read fun amount => hR.read fun steps => hR.act ?_
    exact hP.times (hP.press d _) _

/-- The browser commands that take nothing from the page to a file. -/
theorem browserAct (b : Browser) {command : BrowserCommand} (htable : command ≠ .extractTable)
    (hpicture : command ≠ .screenshotRegion) (values : List Argument) :
    Always R (b.script command values) := by
  unfold Browser.script
  cases command with
  | navigate => exact hR.read fun url => hR.act ((hP.asked _ rfl rfl).bind_pure _)
  | clickSelector => exact hR.read fun selector => hR.act ((hP.asked _ rfl rfl).bind_pure _)
  | typeSelector =>
    exact hR.read fun selector => hR.read fun text => hR.act ((hP.asked _ rfl rfl).bind_pure _)
  | extractTable => exact absurd rfl htable
  | screenshotRegion => exact absurd rfl hpicture
  | orderFlow => exact hR.read fun name => hR.act (hP.asked _ rfl rfl)

end Acting

variable (hP : OfParts P) (hR : ReadsFirst P R)

include hP hR

theorem takeScreenshot (d : Desktop) (args : Access) :
    Always R (do d.screenshot (← Desktop.screenshotPath args)) := by
  unfold Desktop.screenshotPath
  split
  · exact hR.read fun path => hR.act (hP.screenshot d path)
  · refine hR.act (hP.bind ?_ fun path => hP.screenshot d path)
    exact (hP.asked _ rfl).bind_pure _

theorem desktopScript (d : Desktop) {command : DesktopCommand} (hcommand : command ≠ .scroll)
    (values : List Argument) : Always R (d.script command values) := by
  cases command with
  | takeScreenshot => exact hR.takeScreenshot hP d _
  | _ => exact (hR.desktopAct hP.ofActs d hcommand _).bind_pure _

theorem browserScript (b : Browser) (command : BrowserCommand) (values : List Argument) :
    Always R (b.script command values) := by
  -- What the page gives goes to a file, so these two need more than the other commands.
  by_cases htable : command = .extractTable
  · subst htable
    refine hR.read fun selector => hR.read fun path => hR.read fun delimiter => hR.act ?_
    exact hP.bind (hP.asked _ rfl) fun rows => (hP.asked _ rfl).bind_pure _
  · by_cases hpicture : command = .screenshotRegion
    · subst hpicture
      refine hR.read fun selector => hR.read fun path => hR.act ?_
      exact hP.bind (hP.asked _ rfl) fun picture => (hP.asked _ rfl).bind_pure _
    · exact hR.browserAct hP.ofActs b htable hpicture values

end ReadsFirst

section Scrolling

variable {P : Property desk} (hP : OfActs P) (hrefused : ∀ error, P [] (.failed error))

include hP hrefused

theorem OfActs.scroll (dx dy : Number.Double) : Always P (Desktop.scroll dx dy) := by
  have hR : ReadsFirst P P := ⟨hrefused, id⟩
  have hacross : Always P (do
      let horizontal ← Script.ofExcept (countOf dx.abs "scroll: dx")
      if 0 < horizontal then
        call (.scroll (if dx.isNonnegative then .right else .left) horizontal)) := by
    refine hR.read fun horizontal => ?_
    split
    · exact hP.asked _ rfl rfl
    · exact always_pure hP.nothing _
  -- The second distance is read when something was done, so here the property itself is needed of a
  -- refusal, and not only the weaker one of a whole command.
  refine hR.read fun vertical => ?_
  by_cases hvertical : 0 < vertical
  · rw [if_pos hvertical]
    exact hP.bind (hP.asked _ rfl rfl) fun _ => hacross
  · rw [if_neg hvertical]
    exact hacross

/-- A property of acting that a refusal has as well is a property of everything that a desktop
command does without a message. -/
theorem OfActs.act (d : Desktop) (command : DesktopCommand) (args : Access) :
    Always P (d.act command args) := by
  have hR : ReadsFirst P P := ⟨hrefused, id⟩
  by_cases hcommand : command = .scroll
  -- It reads its second distance behind its first action, so it is none of the others.
  · subst hcommand
    refine hR.read fun dx => hR.read fun dy => ?_
    exact hP.bind (hP.scroll hrefused dx dy) fun _ => hP.pause _
  · exact hR.desktopAct hP d hcommand args

end Scrolling

theorem OfParts.script {P : Property desk} (hP : OfParts P)
    (hrefused : ∀ error, P [] (.failed error)) (d : Desktop) (command : DesktopCommand)
    (values : List Argument) : Always P (d.script command values) := by
  have hR : ReadsFirst P P := ⟨hrefused, id⟩
  cases command with
  | takeScreenshot => exact hR.takeScreenshot hP d _
  | _ => exact (hP.ofActs.act hrefused d _ _).bind_pure _

/-! ## Commands by name -/

theorem Desktop.exists_of_mem_handlers {d : Desktop} {name : String} {handler : Handler desk}
    (h : (name, handler) ∈ d.handlers) :
    ∃ command : DesktopCommand, name = command.name ∧ handler = d.script command := by
  obtain ⟨command, -, hcommand⟩ := List.mem_map.1 h
  exact ⟨command, (congrArg Prod.fst hcommand).symm, (congrArg Prod.snd hcommand).symm⟩

theorem Browser.exists_of_mem_handlers {b : Browser} {name : String} {handler : Handler desk}
    (h : (name, handler) ∈ b.handlers) :
    ∃ command : BrowserCommand, name = command.name ∧ handler = b.script command := by
  obtain ⟨command, -, hcommand⟩ := List.mem_map.1 h
  exact ⟨command, (congrArg Prod.fst hcommand).symm, (congrArg Prod.snd hcommand).symm⟩

/-- A property of the parts, which a refusal and the start of a handler have as well, is a property
of each attempt at a command of a plan. -/
theorem OfParts.exists_ending {P : Property desk} (hP : OfParts P)
    (hrefused : ∀ error, P [] (.failed error))
    (hstarted : ∀ name args, P [.started name args] (.done ())) {σ : Type} {d : Desktop}
    {host : Host desk σ} {deadline : Option Nat} {plan : Plan} {before : Situation σ}
    {made : Attempt desk σ}
    (h : made ∈ attempts (.registerAll d.handlers .empty) host deadline plan before) :
    ∃ ending, P made.trace ending := by
  refine exists_ending_of_mem_attempts hP.toSequential hstarted ?_ h
  intro name handler hlookup args
  obtain ⟨command, -, rfl⟩ := Desktop.exists_of_mem_handlers (mem_of_lookup hlookup)
  exact hP.script hrefused d command args

end Deskhand.Desk
