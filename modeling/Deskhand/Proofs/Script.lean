/-
  Deskhand.Proofs.Script

  Runs of scripts.

  Four facts about every run. Without a deadline it comes to an end of its own, a script that leads
  to a fixed value is done with no other, no script can make it look as if a handler was started,
  which only the executor notes, and every answer in it is one that the host gave.
-/

import Deskhand.Script

namespace Deskhand

/-- The name and the arguments of a handler that was started. -/
def Occurrence.start? {I : Interface} : Occurrence I → Option (String × List Argument)
  | .started name args => some (name, args)
  | .called .. => none
  | .slept _ => none

namespace Script

variable {I : Interface} {α σ : Type}

/-- Without a deadline no script is cut off. -/
theorem run_ending_ne_cutOff (host : Host I σ) (script : Script I α) (state : σ) (clock : Nat) :
    (script.run host none state clock).ending ≠ .cutOff := by
  induction script generalizing state clock with
  | done value => simp [run]
  | fail error => simp [run]
  | call c next ih => exact ih (host.answer c state).1 (host.answer c state).2 clock
  | sleep ms next ih => exact ih state (clock + ms)

/-- A script that leads to a fixed value is done with that value. -/
theorem eq_of_run_bind_pure {β : Type} {host : Host I σ} {deadline : Option Nat}
    {script : Script I α} {result value : β} {state : σ} {clock : Nat}
    (h : ((script >>= fun _ => pure result).run host deadline state clock).ending = .done value) :
    value = result := by
  induction script generalizing state clock with
  | done _ => exact (Ending.done.inj h).symm
  | fail error => cases h
  | call c next ih => exact ih (host.answer c state).1 h
  | sleep ms next ih =>
    -- The sleep is brought in front of the bind, where `run` looks for it.
    change ((Script.sleep ms (next >>= fun _ => pure result)).run host deadline state
      clock).ending = _ at h
    unfold run at h
    split at h
    · exact ih h
    · split at h
      · exact ih h
      · cases h

/-- A script starts no handler. -/
theorem run_starts (host : Host I σ) (deadline : Option Nat) (script : Script I α) (state : σ)
    (clock : Nat) :
    (script.run host deadline state clock).trace.filterMap Occurrence.start? = [] := by
  induction script generalizing state clock with
  | done value => rfl
  | fail error => rfl
  | call c next ih => exact ih (host.answer c state).1 (host.answer c state).2 clock
  | sleep ms next ih =>
    unfold run
    split
    · exact ih state (clock + ms)
    · split
      · exact ih state (clock + ms)
      · rfl

/-- Every answer in a run is an answer of the host. -/
theorem exists_answer_of_called_mem {host : Host I σ} {deadline : Option Nat} {script : Script I α}
    {state : σ} {clock : Nat} {c : I.Call} {answer : Except ActionError (I.Reply c)}
    (h : .called c answer ∈ (script.run host deadline state clock).trace) :
    ∃ before, answer = (host.answer c before).1 := by
  induction script generalizing state clock with
  | done value => exact absurd h List.not_mem_nil
  | fail error => exact absurd h List.not_mem_nil
  | call asked next ih =>
    rcases List.mem_cons.1 h with hhere | hlater
    · obtain ⟨rfl, hanswer⟩ := Occurrence.called.inj hhere
      exact ⟨state, eq_of_heq hanswer⟩
    · exact ih (host.answer asked state).1 hlater
  | sleep ms next ih =>
    -- Sleeping is an occurrence of its own and no answer.
    unfold run at h
    split at h
    · rcases List.mem_cons.1 h with hhere | hlater
      · cases hhere
      · exact ih hlater
    · split at h
      · rcases List.mem_cons.1 h with hhere | hlater
        · cases hhere
        · exact ih hlater
      · exact absurd h List.not_mem_nil

end Script

end Deskhand
