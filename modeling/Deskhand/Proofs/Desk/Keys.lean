/-
  Deskhand.Proofs.Desk.Keys

  Keys that are pressed and let go.

  Keys are pressed by chords only, and a chord lets its keys go in reverse without a sleep in
  between. So as long as the device does what it is asked for, presses and releases are nested like
  brackets. Since a deadline cuts a script off at sleeps only, this is so when a plan runs out of
  time as well.

  A device that fails breaks a chord off where it is, and what is down then stays down: a key is
  still held after a command exactly when a call of the device failed while it was down.
-/

import Deskhand.Agent.Basic
import Deskhand.Proofs.Desk.Parts
import Deskhand.Proofs.Execution.Attempts
import Deskhand.Proofs.Script

namespace Deskhand.Desk

open Deskhand.Execution
open Deskhand.Script (Always Ending FailsAtOnce Property always_ask always_pure failsAtOnce_nil
  failsAtOnce_of_forall_notMem)

/-! ## Which keys are down -/

/-- The keys that are down after one more call, the one that was pressed last in front. A key can
only be let go if it is that one. -/
def keysAfter : List Key → DeviceCall → Option (List Key)
  | down, .keyDown key => some (key :: down)
  | last :: down, .keyUp key => if last = key then some down else none
  | [], .keyUp _ => none
  | down, _ => some down

/-- The keys that are down after some calls, given those that are down before; nothing if a key is
let go that is not the one pressed last. -/
def keysDown (down : List Key) (calls : List DeviceCall) : Option (List Key) :=
  calls.foldlM keysAfter down

/-- Each release is that of the key that was pressed last and is still down, and in the end no key
is down. -/
def WellNested (calls : List DeviceCall) : Prop := keysDown [] calls = some []

@[simp] theorem keysDown_nil (down : List Key) : keysDown down [] = some down := rfl

@[simp] theorem keysDown_cons (down : List Key) (c : DeviceCall) (calls : List DeviceCall) :
    keysDown down (c :: calls) = (keysAfter down c).bind fun next => keysDown next calls := rfl

theorem keysDown_append (down : List Key) (first rest : List DeviceCall) :
    keysDown down (first ++ rest) = (keysDown down first).bind fun next => keysDown next rest :=
  List.foldlM_append

theorem WellNested.append {first rest : List DeviceCall} (hfirst : WellNested first)
    (hrest : WellNested rest) : WellNested (first ++ rest) := by
  unfold WellNested at hfirst ⊢
  rw [keysDown_append, hfirst]
  exact hrest

theorem WellNested.flatMap {α : Type} {items : List α} {calls : α → List DeviceCall}
    (h : ∀ item ∈ items, WellNested (calls item)) : WellNested (items.flatMap calls) := by
  induction items with
  | nil => rfl
  | cons item items ih =>
    rw [List.flatMap_cons]
    have hitems := ih fun other hother => h other (List.mem_cons_of_mem item hother)
    exact (h item List.mem_cons_self).append hitems

/-- A key is down as often as it was pressed and not let go again. -/
theorem count_add_count_of_keysDown {down left : List Key} {calls : List DeviceCall}
    (h : keysDown down calls = some left) (key : Key) :
    calls.count (.keyDown key) + down.count key = calls.count (.keyUp key) + left.count key := by
  induction calls generalizing down with
  | nil => simp_all
  | cons c calls ih =>
    rw [keysDown_cons] at h
    -- The call leaves the keys `next` down, and the rest goes on from these.
    obtain ⟨next, hnext, hrest⟩ := Option.bind_eq_some_iff.1 h
    have hcalls := ih hrest
    cases c with
    | keyDown other =>
      obtain rfl : other :: down = next := Option.some.inj hnext
      simp only [List.count_cons, beq_iff_eq, DeviceCall.keyDown.injEq, reduceCtorEq, reduceIte]
        at hcalls ⊢
      omega
    | keyUp other =>
      cases down with
      | nil => cases hnext
      | cons last down =>
        -- Only the key in front can be let go.
        have hlast : last = other ∧ down = next := by
          simpa [keysAfter] using hnext
        obtain ⟨rfl, rfl⟩ := hlast
        simp only [List.count_cons, beq_iff_eq, DeviceCall.keyUp.injEq, reduceCtorEq, reduceIte]
        omega
    | _ =>
      obtain rfl : down = next := Option.some.inj hnext
      simpa using hcalls

/-! ## What a trace says about keys -/

/-- A press that the device has carried out, or a release that it was asked for. -/
def keyCall? : Occurrence desk → Option DeviceCall
  | .called (.device (.keyDown key)) (.ok _) => some (.keyDown key)
  | .called (.device (.keyUp key)) _ => some (.keyUp key)
  | _ => none

/-- The presses that succeeded and the releases that were asked for, in order. -/
def keyCalls (trace : List (Occurrence desk)) : List DeviceCall := trace.filterMap keyCall?

/-- How often a key was pressed with success. -/
def presses (key : Key) (trace : List (Occurrence desk)) : Nat :=
  (keyCalls trace).count (.keyDown key)

/-- How often it was asked to let a key go. -/
def releases (key : Key) (trace : List (Occurrence desk)) : Nat :=
  (keyCalls trace).count (.keyUp key)

theorem keyCalls_append (first rest : List (Occurrence desk)) :
    keyCalls (first ++ rest) = keyCalls first ++ keyCalls rest := List.filterMap_append

theorem presses_eq_releases_add_count {trace : List (Occurrence desk)} {left : List Key}
    (h : keysDown [] (keyCalls trace) = some left) (key : Key) :
    presses key trace = releases key trace + left.count key :=
  count_add_count_of_keysDown h key

/-- Where no device call failed, the events of the device say the same about keys. -/
theorem keysDown_deviceEvents {trace : List (Occurrence desk)}
    (h : ∀ c error, Occurrence.called (I := desk) (.device c) (.error error) ∉ trace)
    (down : List Key) :
    keysDown down (deviceEvents trace) = keysDown down (keyCalls trace) := by
  induction trace generalizing down with
  | nil => rfl
  | cons occurrence trace ih =>
    have htrace := ih fun c error hmem => h c error (List.mem_cons_of_mem occurrence hmem)
    have hevents : deviceEvents (occurrence :: trace) =
        deviceEvents [occurrence] ++ deviceEvents trace :=
      List.filterMap_append (l := [occurrence])
    have hkeys : keyCalls (occurrence :: trace) = keyCalls [occurrence] ++ keyCalls trace :=
      keyCalls_append [occurrence] trace
    -- The two lists differ in calls that have nothing to do with keys, and in releases that failed.
    have hhere : keysDown down (deviceEvents [occurrence]) =
        keysDown down (keyCalls [occurrence]) := by
      match occurrence with
      | .called (.device c) (.error error) => exact absurd List.mem_cons_self (h c error)
      | .called (.device c) (.ok reply) => cases c <;> rfl
      | .called (.launch _) _ | .called (.page _) _ | .called (.save _ _) _
      | .called .identifier _ | .started _ _ | .slept _ => rfl
    rw [hevents, hkeys, keysDown_append, keysDown_append, hhere]
    simp only [htrace]

/-! ## Chords -/

/-- A run that leaves the keys `after` down where `before` were down. It is not cut off, and if it
fails, then because of the device call that was made last. -/
def Moves (before after : List Key) : Property desk := fun trace ending =>
  match ending with
  | .done _ => keysDown before (keyCalls trace) = some after
  | .failed error =>
    (∃ down, keysDown before (keyCalls trace) = some down) ∧
      ∃ earlier c, trace = earlier ++ [.called (.device c) (.error error)]
  | .cutOff => False

theorem Moves.bind {α β : Type} {first second third : List Key} {script : DeskScript α}
    {next : α → DeskScript β} (h : Always (Moves first second) script)
    (hnext : ∀ value, Always (Moves second third) (next value)) :
    Always (Moves first third) (script >>= next) := by
  refine h.bind_of hnext ?_ ?_
  -- The first script was done, and the run ends as the second one does.
  · intro trace rest ending hfirst hrest
    have htrace : keysDown first (keyCalls (trace ++ rest)) = keysDown second (keyCalls rest) := by
      rw [keyCalls_append, keysDown_append, hfirst]
      rfl
    cases ending with
    | done value => exact htrace.trans hrest
    | failed error =>
      obtain ⟨⟨down, hdown⟩, earlier, c, rfl⟩ := hrest
      exact ⟨⟨down, htrace.trans hdown⟩, trace ++ earlier, c, (List.append_assoc ..).symm⟩
    | cutOff => exact hrest
  · -- The first script stopped, so the second one does not matter.
    intro trace ending htrace hstopped
    cases ending with
    | done value => exact absurd rfl hstopped
    | failed error => exact htrace
    | cutOff => exact htrace

/-- A call of the device, of which it is known what it does to the keys, also where it fails. -/
theorem always_moves_call {before after : List Key} {c : DeviceCall}
    (hreply : ∀ reply, keysDown before (keyCalls [.called (.device c) (.ok reply)]) = some after)
    (hfailure : ∀ error, ∃ down,
      keysDown before (keyCalls [.called (.device c) (.error error)]) = some down) :
    Always (Moves before after) (call c) :=
  always_ask hreply fun error => ⟨hfailure error, [], c, rfl⟩

theorem always_moves_keyDown (down : List Key) (key : Key) :
    Always (Moves down (key :: down)) (call (.keyDown key)) :=
  always_moves_call (fun _ => rfl) fun _ => ⟨down, rfl⟩

theorem always_moves_keyUp (down : List Key) (key : Key) :
    Always (Moves (key :: down) down) (call (.keyUp key)) := by
  have hup : keysDown (key :: down) [.keyUp key] = some down := by simp [keysAfter]
  exact always_moves_call (fun _ => hup) fun _ => ⟨down, hup⟩

theorem always_moves_type (down : List Key) (c : Char) :
    Always (Moves down down) (call (.type c)) :=
  always_moves_call (fun _ => rfl) fun _ => ⟨down, rfl⟩

theorem always_moves_pure (down : List Key) :
    Always (Moves down down) (pure () : DeskScript Unit) :=
  always_pure rfl ()

theorem always_moves_presses (down keys : List Key) :
    Always (Moves down (keys.reverse ++ down))
      (Script.each (fun key => call (.keyDown key)) keys) := by
  induction keys generalizing down with
  | nil => exact always_moves_pure down
  | cons key keys ih =>
    -- The key that is pressed first is the last one in the list of those that are down.
    have hrest := ih (key :: down)
    rw [List.append_cons, ← List.reverse_cons] at hrest
    exact Moves.bind (always_moves_keyDown down key) fun _ => hrest

theorem always_moves_types (down : List Key) (chars : List Char) :
    Always (Moves down down) (Script.each (fun c => call (.type c)) chars) := by
  induction chars with
  | nil => exact always_moves_pure down
  | cons c chars ih => exact Moves.bind (always_moves_type down c) fun _ => ih

theorem always_moves_releases (down keys : List Key) :
    Always (Moves (keys ++ down) down) (Script.each (fun key => call (.keyUp key)) keys) := by
  induction keys with
  | nil => exact always_moves_pure down
  | cons key keys ih => exact Moves.bind (always_moves_keyUp (keys ++ down) key) fun _ => ih

theorem always_moves_chord (down : List Key) (chord : Chord) :
    Always (Moves down down) (pressChord chord) := by
  refine Moves.bind (always_moves_presses down chord.keys) fun _ => ?_
  refine Moves.bind (always_moves_types _ chord.chars) fun _ => ?_
  -- Keys are let go in the order in which they stand in that list.
  exact always_moves_releases down chord.keys.reverse

/-! ## Commands -/

/-- In a run that began with no key down, keys were let go in reverse, and in the end none is down
unless the device failed in the very last call. -/
def Tidy (trace : List (Occurrence desk)) (ending : Ending Unit) : Prop :=
  ∃ down, keysDown [] (keyCalls trace) = some down ∧
    (down = [] ∨ ∃ earlier c error,
      trace = earlier ++ [.called (.device c) (.error error)] ∧ ending = .failed error)

theorem tidy_of_keyCalls_eq_nil {trace : List (Occurrence desk)} {ending : Ending Unit}
    (h : keyCalls trace = []) : Tidy trace ending :=
  ⟨[], by rw [h]; rfl, .inl rfl⟩

theorem Tidy.keysDown_of_done {trace : List (Occurrence desk)} (h : Tidy trace (.done ())) :
    keysDown [] (keyCalls trace) = some [] := by
  obtain ⟨down, hdown, rfl | ⟨earlier, c, error, -, hending⟩⟩ := h
  · exact hdown
  · cases hending

theorem Moves.tidy {trace : List (Occurrence desk)} {ending : Ending Unit}
    (h : Moves [] [] trace ending) : Tidy trace ending := by
  cases ending with
  | done value => exact ⟨[], h, .inl rfl⟩
  | failed error =>
    obtain ⟨⟨down, hdown⟩, earlier, c, htrace⟩ := h
    exact ⟨down, hdown, .inr ⟨earlier, c, error, htrace, rfl⟩⟩
  | cutOff => exact h.elim

theorem keyCalls_of_isKey_eq_false {c : DeskCall} (h : c.isKey = false)
    (answer : Except ActionError c.Reply) : keyCalls [.called c answer] = [] := by
  cases c with
  | device c =>
    cases c with
    | keyDown key => cases h
    | keyUp key => cases h
    | _ => cases answer <;> rfl
  | _ => rfl

theorem ofParts_tidy : OfParts Tidy where
  nothing := tidy_of_keyCalls_eq_nil rfl
  append := by
    intro first rest ending hfirst hrest
    obtain ⟨down, hdown, hcause⟩ := hrest
    -- The first part was done, so it left no key down and the rest begins as if it were the whole.
    refine ⟨down, ?_, hcause.imp_right ?_⟩
    · rw [keyCalls_append, keysDown_append, hfirst.keysDown_of_done]
      exact hdown
    · rintro ⟨earlier, c, error, rfl, hending⟩
      exact ⟨first ++ earlier, c, error, (List.append_assoc ..).symm, hending⟩
  cutOff := tidy_of_keyCalls_eq_nil rfl
  slept _ := tidy_of_keyCalls_eq_nil rfl
  asked c hc := always_ask (fun _ => tidy_of_keyCalls_eq_nil (keyCalls_of_isKey_eq_false hc _))
    fun _ => tidy_of_keyCalls_eq_nil (keyCalls_of_isKey_eq_false hc _)
  chord chord := (always_moves_chord [] chord).mono fun _ _ => Moves.tidy

/-! ## Plans -/

section Plans

variable {π : Type} {σ : Type} {d : Desktop} {deadline : Option Nat} {plan : Plan}

theorem exists_tidy_of_mem_attempts {host : Host desk σ} {before : Situation σ}
    {made : Attempt desk σ}
    (h : made ∈ attempts (.registerAll d.handlers .empty) host deadline plan before) :
    ∃ ending, Tidy made.trace ending :=
  ofParts_tidy.exists_ending (fun _ => tidy_of_keyCalls_eq_nil rfl)
    (fun _ _ => tidy_of_keyCalls_eq_nil rfl) h

theorem exists_failsAtOnce_of_mem_attempts {host : Host desk σ} {before : Situation σ}
    {made : Attempt desk σ}
    (h : made ∈ attempts (.registerAll d.handlers .empty) host deadline plan before) :
    ∃ ending, FailsAtOnce made.trace ending :=
  ofParts_failsAtOnce.exists_ending (fun _ => failsAtOnce_nil _)
    (fun _ _ => failsAtOnce_of_forall_notMem (by simp) _) h

/-- The same peripherals, with a device that only records what is asked of it. -/
def Peripherals.recording (p : Peripherals π) : Peripherals π :=
  { p with device := fun c state => (Device.recording.answer 0 c, (p.device c state).2) }

theorem Tidy.wellNested {trace : List (Occurrence desk)} {ending : Ending Unit}
    (h : Tidy trace ending)
    (hdone : ∀ c error, Occurrence.called (I := desk) (.device c) (.error error) ∉ trace) :
    WellNested (deviceEvents trace) := by
  obtain ⟨down, hdown, rfl | ⟨earlier, c, error, rfl, -⟩⟩ := h
  · exact (keysDown_deviceEvents hdone []).trans hdown
  · exact absurd (List.mem_append_right earlier List.mem_cons_self) (hdone c error)

/-- The keys that an attempt presses on a recording device are nested, whether or not it is cut
off. -/
theorem wellNested_of_mem_attempts {p : Peripherals π} {identifier : Nat → String}
    {before : Situation (World π)} {made : Attempt desk (World π)}
    (h : made ∈ attempts (.registerAll d.handlers .empty) (host p.recording identifier) deadline
      plan before) :
    WellNested (deviceEvents made.trace) := by
  obtain ⟨ending, htidy⟩ := exists_tidy_of_mem_attempts h
  refine htidy.wellNested fun c error hmem => ?_
  -- A recording device gives no errors.
  obtain ⟨state, hanswer⟩ := exists_answer_of_mem_attempts h hmem
  cases hanswer

end Plans

/-- With a recording device, whatever else the surroundings do and whenever a time limit strikes,
the keys that the desktop commands of a plan press and let go are nested, and in the end none is
down. -/
theorem wellNested_runValue {π : Type} (d : Desktop) (prompt : Prompt) (limit : Option Nat)
    (p : Peripherals π) (identifier : Nat → String) (value : Json) (before : Situation (World π)) :
    WellNested (deviceEvents
      (Agent.runValue ⟨.registerAll d.handlers .empty, prompt, limit⟩ (host p.recording identifier)
        value before).trace) := by
  unfold Agent.runValue
  cases Plan.ofJson value with
  | error error => rfl
  | ok plan =>
    -- What happens in a plan is what happens in its attempts, one after the other.
    have hevents : deviceEvents (Agent.runPlan ⟨.registerAll d.handlers .empty, prompt, limit⟩
        (host p.recording identifier) plan before).trace =
        (attempts (.registerAll d.handlers .empty) (host p.recording identifier)
          (limit.map (before.clock + ·)) plan before).flatMap
          fun made => deviceEvents made.trace := by
      unfold Agent.runPlan
      simp only [executeWithin_report, execute_trace]
      exact List.filterMap_flatMap
    rw [hevents]
    exact WellNested.flatMap fun made hmade => wellNested_of_mem_attempts hmade

/-! ## Devices that fail -/

/-- A key is held after a trace in which it was pressed more often than it was let go. -/
def Held (key : Key) (trace : List (Occurrence desk)) : Prop :=
  releases key trace < presses key trace

instance (key : Key) (trace : List (Occurrence desk)) : Decidable (Held key trace) :=
  inferInstanceAs (Decidable (_ < _))

/-- With any device, a key that was pressed at a command of a plan is let go as often, unless a call
of the device fails while the key is down: then nothing is let go any more. -/
theorem held_iff_exists_failure {π : Type} (d : Desktop) (p : Peripherals π)
    (identifier : Nat → String) (deadline : Option Nat) (plan : Plan) (before : Situation (World π))
    (made : Attempt desk (World π))
    (hmade : made ∈ attempts (.registerAll d.handlers .empty) (host p identifier) deadline plan
      before) (key : Key) :
    Held key made.trace ↔ ∃ earlier c error later,
      made.trace = earlier ++ .called (.device c) (.error error) :: later ∧
        Held key (earlier ++ [.called (.device c) (.error error)]) := by
  constructor
  · intro hheld
    obtain ⟨ending, down, hdown, rfl | ⟨earlier, c, error, htrace, -⟩⟩ :=
      exists_tidy_of_mem_attempts hmade
    -- All keys were let go, so none of them is held.
    · have hpresses := presses_eq_releases_add_count hdown key
      rw [List.count_nil] at hpresses
      exact absurd hpresses (Nat.ne_of_gt hheld)
    · exact ⟨earlier, c, error, [], htrace, htrace ▸ hheld⟩
  · rintro ⟨earlier, c, error, later, htrace, hheld⟩
    -- The call that failed is the last thing that happened, so no release came after it.
    obtain ⟨ending, hfails⟩ := exists_failsAtOnce_of_mem_attempts hmade
    obtain ⟨rfl, -⟩ := hfails earlier _ error later htrace
    rw [htrace]
    exact hheld

/-- Typing a letter while a key is down, on a device of which the second call fails. -/
def brokenShortcut : List (Attempt desk (World Nat)) :=
  attempts (.registerAll (Desktop.handlers ⟨.linux, .standard, "/"⟩) .empty)
    (host (.of (.failing fun count => if count = 2 then some (.device "unplugged") else none)
      .recording noPage) toString)
    none ["pressKey(\"ctrl+c\")"] ⟨.empty none, ⟨0, ⟨[], []⟩, 0⟩, 0⟩

theorem exists_held_brokenShortcut : ∃ made ∈ brokenShortcut, Held .controlLeft made.trace := by
  decide +kernel

/-- The control key is held, and the call that failed came while it was down. -/
theorem held_iff_exists_failure_brokenShortcut :
    ∃ made ∈ brokenShortcut, Held .controlLeft made.trace ∧ ∃ earlier c error later,
      made.trace = earlier ++ .called (.device c) (.error error) :: later ∧
        Held .controlLeft (earlier ++ [.called (.device c) (.error error)]) := by
  obtain ⟨made, hmade, hheld⟩ := exists_held_brokenShortcut
  exact ⟨made, hmade, hheld, (held_iff_exists_failure _ _ _ _ _ _ made hmade _).1 hheld⟩

/-- The letter cannot be typed, and the key that is down for it is not let go. -/
theorem not_forall_presses_le_releases :
    ¬ ∀ made ∈ brokenShortcut, ∀ key, presses key made.trace ≤ releases key made.trace := by
  intro h
  obtain ⟨made, hmade, hheld⟩ := exists_held_brokenShortcut
  exact absurd (h made hmade .controlLeft) (Nat.not_le.2 hheld)

end Deskhand.Desk
