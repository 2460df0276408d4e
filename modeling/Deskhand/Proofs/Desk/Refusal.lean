/-
  Deskhand.Proofs.Desk.Refusal

  Refusals.

  Commands read their arguments first and act then. So a command that refuses its arguments, or a
  key in them, has asked nothing of the device, the launcher or the page, and has written no file.

  `scroll` is the exception: it scrolls vertically before it looks at the horizontal distance, so
  that it may refuse the latter when the wheel has been turned already.
-/

import Deskhand.Proofs.Desk.Parts

namespace Deskhand

/-- Whether an error is a complaint about arguments. -/
def ActionError.isRefusal : ActionError → Bool
  | .invalidArguments _ | .unknownKey _ => true
  | .device _ | .launch _ | .io _ | .unsupported _ => false

namespace Desk

open Deskhand.Command (Access)
open Deskhand.Script (Always Ending Property Sequential always_ask always_ask_bind always_of_forall
  always_ofExcept_bind always_pure)

/-! ## Actions -/

/-- Whether something happened outside: the device, the launcher or the page was asked for
something, or a file was written. -/
def isAction : Occurrence desk → Bool
  | .called .identifier _ => false
  | .called _ _ => true
  | .started .. | .slept _ => false

def Acts (trace : List (Occurrence desk)) : Prop :=
  ∃ occurrence ∈ trace, isAction occurrence = true

@[simp] theorem acts_nil : ¬ Acts [] := by simp [Acts]

@[simp] theorem acts_cons (occurrence : Occurrence desk) (trace : List (Occurrence desk)) :
    Acts (occurrence :: trace) ↔ isAction occurrence = true ∨ Acts trace := by simp [Acts]

/-- Where nothing happens outside, the peripherals and the files stay as they are. -/
theorem run_state_of_not_acts {π α : Type} {p : Peripherals π} {identifier : Nat → String}
    {deadline : Option Nat} {script : DeskScript α} {state : World π} {clock : Nat}
    (h : ¬ Acts (script.run (host p identifier) deadline state clock).trace) :
    (script.run (host p identifier) deadline state clock).state.peripherals = state.peripherals ∧
      (script.run (host p identifier) deadline state clock).state.files = state.files := by
  induction script generalizing state clock with
  | done value => exact ⟨rfl, rfl⟩
  | fail error => exact ⟨rfl, rfl⟩
  | call c next ih =>
    have hcall := fun hrest => h ((acts_cons _ _).2 hrest)
    cases c with
    -- Of all calls only the one for an identifier does nothing outside.
    | identifier => exact ih _ fun hacts => hcall (.inr hacts)
    | _ => exact absurd (.inl rfl) hcall
  | sleep ms next ih =>
    unfold Script.run at h ⊢
    split at h
    · exact ih fun hacts => h ((acts_cons _ _).2 (.inr hacts))
    · split at h
      · next hgranted =>
        rw [if_pos hgranted]
        exact ih fun hacts => h ((acts_cons _ _).2 (.inr hacts))
      · next hstruck =>
        rw [if_neg hstruck]
        exact ⟨rfl, rfl⟩

/-! ## Runs that end in a refusal -/

/-- If the run ends in a refusal, it is one that was given for an answer. -/
def Firm : Property desk := fun trace ending =>
  ∀ error, ending = .failed error → error.isRefusal = true → ∃ c, .called c (.error error) ∈ trace

/-- If the run ends in a refusal, it is one that was given for an answer, or else something has
happened outside exactly when the arguments are of a kind for which that is to be expected. -/
def Prudent (expected : Prop) : Property desk := fun trace ending =>
  ∀ error, ending = .failed error → error.isRefusal = true →
    (∃ c, .called c (.error error) ∈ trace) ∨ (Acts trace ↔ expected)

theorem firm_of_done (trace : List (Occurrence desk)) : Firm trace (.done ()) := by
  intro error hending
  cases hending

theorem Firm.append {first rest : List (Occurrence desk)} {ending : Ending Unit}
    (hrest : Firm rest ending) : Firm (first ++ rest) ending := by
  intro error hending hrefusal
  obtain ⟨c, hmem⟩ := hrest error hending hrefusal
  exact ⟨c, List.mem_append_right first hmem⟩

theorem Firm.prudent {trace : List (Occurrence desk)} {ending : Ending Unit}
    (h : Firm trace ending) {expected : Prop} : Prudent expected trace ending :=
  fun error hending hrefusal => .inl (h error hending hrefusal)

theorem prudent_nil {expected : Prop} (h : ¬ expected) (ending : Ending Unit) :
    Prudent expected [] ending :=
  fun _ _ _ => .inr (by simp [h])

theorem always_firm_ask (c : DeskCall) : Always Firm (Script.ask (I := desk) c) := by
  refine always_ask (fun _ => firm_of_done _) fun refusal error hending _ => ?_
  obtain rfl : refusal = error := by simpa using hending
  exact ⟨c, List.mem_singleton.2 rfl⟩

theorem sequential_firm : Sequential Firm where
  nothing := firm_of_done _
  append _ hrest := hrest.append

theorem ofParts_firm : OfParts Firm where
  toSequential := sequential_firm
  cutOff := by
    intro error hending
    cases hending
  slept _ := firm_of_done _
  asked c _ := always_firm_ask c
  chord := always_pressChord sequential_firm fun _ => always_firm_ask _

theorem readsFirst_prudent {expected : Prop} (h : ¬ expected) :
    ReadsFirst Firm (Prudent expected) where
  refused _ := prudent_nil h _
  acting hfirm := hfirm.prudent

/-- What comes after a script and refuses nothing by itself does not count. -/
theorem always_prudent_bind {α β : Type} {expected : Prop} {script : DeskScript α}
    {next : α → DeskScript β} (h : Always (Prudent expected) script)
    (hnext : ∀ value, Always Firm (next value)) : Always (Prudent expected) (script >>= next) :=
  h.bind_of hnext (fun _ _ _ _ hrest => hrest.append.prudent) fun _ _ hstopped _ => hstopped

/-! ## The late refusal of a scroll -/

/-- A vertical distance for which the wheel is turned: a count that is not zero. -/
def Turns (dy : Number.Double) : Prop :=
  ∃ vertical, countOf dy.abs "scroll: dy" = .ok vertical ∧ 0 < vertical

/-- The distances of a scroll are numbers, and for the vertical one the wheel is turned. This is
done before the horizontal one is looked at. -/
def TurnsFirst (args : Access) : Prop :=
  ∃ dx dy, args.numberOr 0 (.ofNat _ 0) = .ok dx ∧ args.numberOr 1 (.ofNat _ 0) = .ok dy ∧ Turns dy

theorem turns_iff {dy : Number.Double} {vertical : Nat}
    (h : countOf dy.abs "scroll: dy" = .ok vertical) : Turns dy ↔ 0 < vertical := by
  simp [Turns, h]

theorem turnsFirst_iff {args : Access} {dx dy : Number.Double}
    (hdx : args.numberOr 0 (.ofNat _ 0) = .ok dx) (hdy : args.numberOr 1 (.ofNat _ 0) = .ok dy) :
    TurnsFirst args ↔ Turns dy := by
  simp [TurnsFirst, hdx, hdy]

theorem always_prudent_scroll (dx dy : Number.Double) :
    Always (Prudent (Turns dy)) (Desktop.scroll dx dy) := by
  -- Where the vertical distance is refused, nothing has been done yet.
  refine always_ofExcept_bind ?_ fun error hvertical => prudent_nil (by simp [Turns, hvertical]) _
  intro vertical hvertical
  have hturns := turns_iff hvertical
  by_cases hpositive : 0 < vertical
  · rw [if_pos hpositive]
    -- Whatever comes after the first call, something has happened outside.
    have hacts {c : DeviceCall} {answer : Except ActionError c.Reply}
        (trace : List (Occurrence desk)) (ending : Ending Unit) :
        Prudent (Turns dy) (.called (.device c) answer :: trace) ending :=
      fun _ _ _ => .inr (by simp [isAction, hturns, hpositive])
    exact always_ask_bind (fun _ => always_of_forall hacts _) fun _ => hacts [] _
  · rw [if_neg hpositive]
    -- Now the horizontal distance is the only one that is scrolled, so it is read first.
    have hreads := readsFirst_prudent (mt hturns.1 hpositive)
    refine hreads.read fun horizontal => hreads.act ?_
    split
    · exact always_firm_ask _
    · exact always_pure (firm_of_done _) _

theorem always_prudent_scrollCommand (d : Desktop) (args : Access) :
    Always (Prudent (TurnsFirst args)) (d.act .scroll args) := by
  refine always_ofExcept_bind ?_ fun error hdx => prudent_nil (by simp [TurnsFirst, hdx]) _
  intro dx hdx
  refine always_ofExcept_bind ?_ fun error hdy => prudent_nil (by simp [TurnsFirst, hdy]) _
  intro dy hdy
  rw [turnsFirst_iff hdx hdy]
  exact always_prudent_bind (always_prudent_scroll dx dy) fun _ => ofParts_firm.pause _

/-- Only a scroll whose arguments turn the wheel first does anything before it refuses them. -/
theorem always_prudent_desktop (d : Desktop) (command : DesktopCommand) (values : List Argument) :
    Always (Prudent (command = .scroll ∧ TurnsFirst ⟨command.name, values⟩))
      (d.script command values) := by
  by_cases hcommand : command = .scroll
  · subst hcommand
    simp only [true_and]
    exact (always_prudent_scrollCommand d _).bind_pure _
  · have hlate : ¬ (command = .scroll ∧ TurnsFirst ⟨command.name, values⟩) :=
      fun h => hcommand h.1
    exact (readsFirst_prudent hlate).desktopScript ofParts_firm d hcommand values

theorem always_prudent_browser (b : Browser) (command : BrowserCommand) (values : List Argument) :
    Always (Prudent False) (b.script command values) :=
  (readsFirst_prudent not_false).browserScript ofParts_firm b command values

/-! ## Commands by name -/

/-- Peripherals that do not complain about arguments, whether or not they fail for other reasons. -/
structure Peripherals.Obliging {π : Type} (p : Peripherals π) : Prop where
  device : ∀ c state error, (p.device c state).1 = .error error → error.isRefusal = false
  launch : ∀ request state error,
    (p.launch request state).1 = .error error → error.isRefusal = false
  page : ∀ c state error, (p.page c state).1 = .error error → error.isRefusal = false

theorem Peripherals.Obliging.isRefusal_eq_false {π : Type} {p : Peripherals π} (hp : p.Obliging)
    {identifier : Nat → String} {c : DeskCall} {state : World π} {error : ActionError}
    (h : (answer p identifier c state).1 = .error error) : error.isRefusal = false := by
  cases c with
  | device c => exact hp.device c _ error h
  | launch request => exact hp.launch request _ error h
  | page c => exact hp.page c _ error h
  -- Files fail for a reason of their own, and identifiers do not fail.
  | save path content =>
    simp only [answer] at h
    cases hsave : (state.files.save path content).1 with
    | none => simp [hsave] at h
    | some failure =>
      obtain rfl : ActionError.io failure.message = error := by simpa [hsave] using h
      rfl
  | identifier => cases h

theorem acts_iff_of_prudent {π α : Type} {p : Peripherals π} (hp : p.Obliging)
    {identifier : Nat → String} {expected : Prop} {script : DeskScript α}
    (hscript : Always (Prudent expected) script) {deadline : Option Nat} {state : World π}
    {clock : Nat} {error : ActionError}
    (hending : (script.run (host p identifier) deadline state clock).ending = .failed error)
    (hrefusal : error.isRefusal = true) :
    Acts (script.run (host p identifier) deadline state clock).trace ↔ expected := by
  have hprudent := hscript.run (host p identifier) deadline state clock
  rw [hending] at hprudent
  rcases hprudent error rfl hrefusal with ⟨c, hmem⟩ | hacts
  -- The refusal would be an answer, and no answer is one.
  · obtain ⟨start, hanswer⟩ := Script.exists_answer_of_called_mem hmem
    rw [hp.isRefusal_eq_false hanswer.symm] at hrefusal
    cases hrefusal
  · exact hacts

theorem DesktopCommand.name_eq_scroll_iff (command : DesktopCommand) :
    command.name = "scroll" ↔ command = .scroll := by
  cases command <;> decide

theorem BrowserCommand.name_ne_scroll (command : BrowserCommand) : command.name ≠ "scroll" := by
  cases command <;> decide

/-- Nothing happened outside in a run from a state, and the files are what they were. -/
def Idle {π α : Type} (state : World π) (run : Script.Run desk (World π) α) : Prop :=
  ¬ Acts run.trace ∧ run.state.files = state.files

/-- A desktop or browser command that refuses its arguments has done nothing, unless it is a scroll
that turned the wheel vertically before it looked at the horizontal distance. -/
theorem idle_iff_of_refused {π : Type} (d : Desktop) (b : Browser) (p : Peripherals π)
    (hp : p.Obliging) (identifier : Nat → String) (deadline : Option Nat) (name : String)
    (handler : Handler desk) (hhandler : (name, handler) ∈ d.handlers ++ b.handlers)
    (values : List Argument) (state : World π) (clock : Nat) (error : ActionError)
    (hending :
      ((handler values).run (host p identifier) deadline state clock).ending = .failed error)
    (hrefusal : error.isRefusal = true) :
    Idle state ((handler values).run (host p identifier) deadline state clock) ↔
      ¬ (name = "scroll" ∧ TurnsFirst ⟨name, values⟩) := by
  have hacts : Acts ((handler values).run (host p identifier) deadline state clock).trace ↔
      name = "scroll" ∧ TurnsFirst ⟨name, values⟩ := by
    rcases List.mem_append.1 hhandler with hdesktop | hbrowser
    · obtain ⟨command, rfl, rfl⟩ := Desktop.exists_of_mem_handlers hdesktop
      rw [DesktopCommand.name_eq_scroll_iff]
      exact acts_iff_of_prudent hp (always_prudent_desktop d command values) hending hrefusal
    · obtain ⟨command, rfl, rfl⟩ := Browser.exists_of_mem_handlers hbrowser
      have hprudent := always_prudent_browser b command values
      have hacts := acts_iff_of_prudent hp hprudent hending hrefusal
      simpa [BrowserCommand.name_ne_scroll] using hacts
  constructor
  · exact fun hidle hlate => hidle.1 (hacts.2 hlate)
  · intro hlate
    have hsilent := fun h => hlate (hacts.1 h)
    exact ⟨hsilent, (run_state_of_not_acts hsilent).2⟩

theorem obliging_recording : (Peripherals.of .recording .recording noPage).Obliging where
  device c state error h := by cases h
  launch request state error h := by cases h
  page c state error h := by
    cases h
    rfl

/-- A chord of a known and an unknown key: the first one is not pressed either. -/
theorem idle_of_unknownKey :
    Idle ⟨0, ⟨[], []⟩, 0⟩ ((Desktop.script ⟨.linux, .standard, "/"⟩ .pressKey
      [.text "ctrl+hyper"]).run (host (.of .recording .recording noPage) toString) none
      ⟨0, ⟨[], []⟩, 0⟩ 0) := by
  have hhandler : ("pressKey", Desktop.script ⟨.linux, .standard, "/"⟩ .pressKey) ∈
      Desktop.handlers ⟨.linux, .standard, "/"⟩ ++ Browser.handlers ⟨"/"⟩ :=
    List.mem_append_left _ (List.mem_map.2 ⟨.pressKey, by decide, rfl⟩)
  have hending : ((Desktop.script ⟨.linux, .standard, "/"⟩ .pressKey [.text "ctrl+hyper"]).run
      (host (.of .recording .recording noPage) toString) none ⟨0, ⟨[], []⟩, 0⟩ 0).ending =
        .failed (.unknownKey "hyper") := by
    decide +kernel
  refine (idle_iff_of_refused _ _ _ obliging_recording _ _ _ _ hhandler _ _ _ _ hending rfl).2 ?_
  rintro ⟨hname, -⟩
  exact absurd hname (by decide)

/-- A scroll upwards that goes too far to the side. -/
def lateScroll : Script.Run desk (World Nat) (Option String) :=
  (Desktop.script ⟨.linux, .standard, "/"⟩ .scroll
    [.number (.ofNat _ 5000000000), .number (.ofNat _ 5)]).run
    (host (.of .recording .recording noPage) toString) none ⟨0, ⟨[], []⟩, 0⟩ 0

/-- It is refused when the wheel has been turned. -/
theorem deviceEvents_lateScroll :
    lateScroll.ending = .failed (.invalidArguments
      "scroll: dx must be a non-negative number, got 5000000000") ∧
      deviceEvents lateScroll.trace = [.scroll .up 5] := by
  decide +kernel

end Desk

end Deskhand
