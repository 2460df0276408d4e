/-
  Deskhand.Proofs.Script.Deadline

  Runs under a deadline.

  A deadline does nothing to a run but to cut it off. Two runs of one script from the same state and
  time, the second under a later deadline or under none, are the same run, or the first one was cut
  off on the way: then what happened in it is what happened first in the other.

  Whether that comes to pass depends on the time alone. The run without a deadline takes as long as
  it sleeps, and it is granted whole exactly if it ends in time.
-/

import Deskhand.Script

namespace Deskhand

variable {I : Interface}

/-- How long an occurrence takes: only sleeping takes time. -/
def Occurrence.duration : Occurrence I → Nat
  | .started .. => 0
  | .called .. => 0
  | .slept ms => ms

/-- The time that is slept in a trace. -/
def timeSlept : List (Occurrence I) → Nat
  | [] => 0
  | occurrence :: trace => occurrence.duration + timeSlept trace

@[simp] theorem timeSlept_nil : timeSlept ([] : List (Occurrence I)) = 0 := rfl

@[simp] theorem timeSlept_cons (occurrence : Occurrence I) (trace : List (Occurrence I)) :
    timeSlept (occurrence :: trace) = occurrence.duration + timeSlept trace := rfl

@[simp] theorem timeSlept_append (first rest : List (Occurrence I)) :
    timeSlept (first ++ rest) = timeSlept first + timeSlept rest := by
  induction first with
  | nil => simp
  | cons occurrence first ih => simp [ih, Nat.add_assoc]

/-- A deadline that does not come before `limit`: a later one, or none. -/
def NotBefore (limit : Nat) (deadline : Option Nat) : Prop := ∀ later ∈ deadline, limit ≤ later

theorem notBefore_some {limit later : Nat} (h : limit ≤ later) : NotBefore limit (some later) := by
  intro other hother
  cases hother
  exact h

theorem NotBefore.of_le {early limit : Nat} {deadline : Option Nat} (h : NotBefore limit deadline)
    (hearly : early ≤ limit) : NotBefore early deadline :=
  fun later hlater => Nat.le_trans hearly (h later hlater)

namespace Script

variable {α σ : Type}

theorem run_sleep_of_notBefore {deadline : Option Nat} {clock ms : Nat}
    (h : NotBefore (clock + ms) deadline) (host : Host I σ) (next : Script I α) (state : σ) :
    (Script.sleep ms next).run host deadline state clock =
      (next.run host deadline state (clock + ms)).after (.slept ms) := by
  cases deadline with
  | none => rfl
  | some limit => exact if_pos (h limit rfl)

theorem run_sleep_of_lt {limit clock ms : Nat} (h : limit < clock + ms) (host : Host I σ)
    (next : Script I α) (state : σ) :
    (Script.sleep ms next).run host (some limit) state clock = ⟨.cutOff, state, limit, []⟩ :=
  if_neg (Nat.not_le.2 h)

/-- Without a deadline, the clock moves on by the time that is slept. -/
theorem run_clock (host : Host I σ) (script : Script I α) (state : σ) (clock : Nat) :
    (script.run host none state clock).clock =
      clock + timeSlept (script.run host none state clock).trace := by
  induction script generalizing state clock with
  | done value => rfl
  | fail error => rfl
  | call c next ih =>
    have hnext := ih (host.answer c state).1 (host.answer c state).2 clock
    simpa [run, Run.after, Occurrence.duration] using hnext
  | sleep ms next ih =>
    have hnext := ih state (clock + ms)
    simpa [run, Run.after, Occurrence.duration, Nat.add_assoc] using hnext

/-- A run that ends in time is granted whole; one that does not is cut off. -/
theorem run_some_cases (host : Host I σ) (script : Script I α) (state : σ) {clock limit : Nat}
    (hclock : clock ≤ limit) :
    let whole := script.run host none state clock
    let limited := script.run host (some limit) state clock
    (whole.clock ≤ limit ∧ limited = whole) ∨ (limit < whole.clock ∧ limited.ending = .cutOff) := by
  induction script generalizing state clock with
  | done value => exact .inl ⟨hclock, rfl⟩
  | fail error => exact .inl ⟨hclock, rfl⟩
  | call c next ih =>
    -- A call takes no time.
    rcases ih (host.answer c state).1 (host.answer c state).2 hclock with
      ⟨hwhole, hsame⟩ | ⟨hlate, hcut⟩
    · exact .inl ⟨hwhole, congrArg (Run.after · _) hsame⟩
    · exact .inr ⟨hlate, hcut⟩
  | sleep ms next ih =>
    intro whole limited
    rcases Nat.lt_or_ge limit (clock + ms) with hstruck | hgranted
    · -- What comes after the sleep can only make it later.
      have hnext := run_clock host next state (clock + ms)
      have hlate : limit < whole.clock :=
        show limit < (next.run host none state (clock + ms)).clock by omega
      exact .inr ⟨hlate, congrArg Run.ending (run_sleep_of_lt hstruck host next state)⟩
    · have hlimited := run_sleep_of_notBefore (notBefore_some hgranted) host next state
      rcases ih state hgranted with ⟨hwhole, hsame⟩ | ⟨hlate, hcut⟩
      · exact .inl ⟨hwhole, hlimited.trans (congrArg (Run.after · _) hsame)⟩
      · exact .inr ⟨hlate, (congrArg Run.ending hlimited).trans hcut⟩

/-- Under a later deadline a run is the same, or it was cut off and begins in the same way. -/
theorem run_eq_or_prefix (host : Host I σ) (script : Script I α) (state : σ) (clock : Nat)
    {limit : Nat} {deadline : Option Nat} (hlater : NotBefore limit deadline) :
    let extended := script.run host deadline state clock
    let limited := script.run host (some limit) state clock
    limited = extended ∨ (limited.ending = .cutOff ∧ limited.trace <+: extended.trace) := by
  induction script generalizing state clock with
  | done value => exact .inl rfl
  | fail error => exact .inl rfl
  | call c next ih =>
    rcases ih (host.answer c state).1 (host.answer c state).2 clock with hsame | ⟨hcut, htrace⟩
    · exact .inl (congrArg (Run.after · _) hsame)
    · exact .inr ⟨hcut, List.cons_prefix_cons.2 ⟨rfl, htrace⟩⟩
  | sleep ms next ih =>
    intro extended limited
    rcases Nat.lt_or_ge limit (clock + ms) with hstruck | hgranted
    -- The run is cut off before anything else happens.
    · have hlimited : limited = ⟨.cutOff, state, limit, []⟩ :=
        run_sleep_of_lt hstruck host next state
      rw [hlimited]
      exact .inr ⟨rfl, List.nil_prefix⟩
    · -- The later deadline grants this sleep as well.
      have hlimited : limited = _ :=
        run_sleep_of_notBefore (notBefore_some hgranted) host next state
      have hextended : extended = _ :=
        run_sleep_of_notBefore (hlater.of_le hgranted) host next state
      rw [hlimited, hextended]
      rcases ih state (clock + ms) with hsame | ⟨hcut, htrace⟩
      · exact .inl (congrArg (Run.after · _) hsame)
      · exact .inr ⟨hcut, List.cons_prefix_cons.2 ⟨rfl, htrace⟩⟩

end Script

end Deskhand
