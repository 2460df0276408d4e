/-
  Deskhand.Proofs.Script.Always

  What holds of every run of a script.

  A script does not know who answers it, nor where a deadline will cut it off. A property of what
  happened and of how it ended *always* holds when it holds of every run that a script can have;
  this is said by recursion on the script, with every possible answer to a call and with a cut at
  every sleep. A property that goes over from two parts to the whole is proved of a script by
  proving it of the calls and sleeps that the script is made of.
-/

import Deskhand.Script

namespace Deskhand

namespace Script

variable {I : Interface} {α β σ : Type}

/-- An ending without its value. -/
def Ending.withoutValue : Ending α → Ending Unit
  | .done _ => .done ()
  | .failed error => .failed error
  | .cutOff => .cutOff

/-- What may be said of a run: of what happened in it, and of how it ended. -/
abbrev Property (I : Interface) := List (Occurrence I) → Ending Unit → Prop

/-- The property holds of every run of the script. -/
def Always : Property I → Script I α → Prop
  | P, .done _ => P [] (.done ())
  | P, .fail error => P [] (.failed error)
  | P, .call c next =>
    ∀ answer, Always (fun trace ending => P (.called c answer :: trace) ending) (next answer)
  | P, .sleep ms next =>
    P [] .cutOff ∧ Always (fun trace ending => P (.slept ms :: trace) ending) next

theorem Always.mono {P Q : Property I} {script : Script I α}
    (hPQ : ∀ trace ending, P trace ending → Q trace ending) (h : Always P script) :
    Always Q script := by
  -- The property gets an occurrence in front at each step, so it is arbitrary here.
  induction script generalizing P Q with
  | done value => exact hPQ _ _ h
  | fail error => exact hPQ _ _ h
  | call c next ih => exact fun answer => ih answer (fun _ _ => hPQ _ _) (h answer)
  | sleep ms next ih => exact ⟨hPQ _ _ h.1, ih (fun _ _ => hPQ _ _) h.2⟩

theorem always_of_forall {P : Property I} (hP : ∀ trace ending, P trace ending)
    (script : Script I α) : Always P script := by
  induction script generalizing P with
  | done value => exact hP _ _
  | fail error => exact hP _ _
  | call c next ih => exact fun answer => ih answer fun _ _ => hP _ _
  | sleep ms next ih => exact ⟨hP _ _, ih fun _ _ => hP _ _⟩

/-- What always holds, holds of the run with any host, from any state and under any deadline. -/
theorem Always.run {P : Property I} {script : Script I α} (h : Always P script) (host : Host I σ)
    (deadline : Option Nat) (state : σ) (clock : Nat) :
    P (script.run host deadline state clock).trace
      (script.run host deadline state clock).ending.withoutValue := by
  induction script generalizing P state clock with
  | done value => exact h
  | fail error => exact h
  | call c next ih =>
    exact ih (host.answer c state).1 (h (host.answer c state).1) (host.answer c state).2 clock
  | sleep ms next ih =>
    unfold Script.run
    split
    · exact ih h.2 state (clock + ms)
    · split
      · exact ih h.2 state (clock + ms)
      · exact h.1

/-! ## The ways to put a script together -/

/-- What always holds of a script and of what comes after it, each on its own, and what follows from
that for both together: the second one only gets its turn when the first one is done. -/
theorem Always.bind_of {P Q R : Property I} {script : Script I α} {next : α → Script I β}
    (h : Always P script) (hnext : ∀ value, Always Q (next value))
    (happend : ∀ first rest ending, P first (.done ()) → Q rest ending → R (first ++ rest) ending)
    (hstop : ∀ trace ending, P trace ending → ending ≠ .done () → R trace ending) :
    Always R (script >>= next) := by
  -- The first occurrence of the script moves into the properties that the rest is about.
  induction script generalizing P R with
  | done value => exact (hnext value).mono fun rest ending => happend [] rest ending h
  | fail error => exact hstop [] _ h (by simp)
  | call c rest ih =>
    intro answer
    refine ih answer (h answer) ?_ ?_
    · intro first rest ending
      exact happend (_ :: first) rest ending
    · intro trace ending
      exact hstop (_ :: trace) ending
  | sleep ms rest ih =>
    refine ⟨hstop [] _ h.1 (by simp), ih h.2 ?_ ?_⟩
    · intro first rest ending
      exact happend (_ :: first) rest ending
    · intro trace ending
      exact hstop (_ :: trace) ending

theorem always_pure {P : Property I} (h : P [] (.done ())) (value : α) :
    Always P (pure value : Script I α) := h

theorem always_ask {P : Property I} {c : I.Call}
    (hreply : ∀ reply, P [.called c (.ok reply)] (.done ()))
    (hrefusal : ∀ error, P [.called c (.error error)] (.failed error)) : Always P (ask c) := by
  intro answer
  cases answer with
  | ok reply => exact hreply reply
  | error error => exact hrefusal error

theorem always_ask_bind {P : Property I} {c : I.Call} {next : I.Reply c → Script I β}
    (hreply : ∀ reply,
      Always (fun trace ending => P (.called c (.ok reply) :: trace) ending) (next reply))
    (hrefusal : ∀ error, P [.called c (.error error)] (.failed error)) :
    Always P (ask c >>= next) := by
  intro answer
  cases answer with
  | ok reply => exact hreply reply
  | error error => exact hrefusal error

/-- A value that is read first: if there is none, nothing has happened yet. -/
theorem always_ofExcept_bind {P : Property I} {value : Except ActionError α} {next : α → Script I β}
    (hread : ∀ read, value = .ok read → Always P (next read))
    (hfailed : ∀ error, value = .error error → P [] (.failed error)) :
    Always P (ofExcept value >>= next) := by
  cases value with
  | ok read => exact hread read rfl
  | error error => exact hfailed error rfl

/-- What a script leads to makes no difference to what happens in it. -/
theorem Always.bind_pure {P : Property I} {script : Script I α} (h : Always P script)
    (result : α → β) : Always P (script >>= fun value => pure (result value)) := by
  -- Behind the script nothing more happens.
  have hrest (value : α) :
      Always (fun rest ending => rest = [] ∧ ending = .done ())
        (pure (result value) : Script I β) := ⟨rfl, rfl⟩
  refine h.bind_of hrest ?_ ?_
  · rintro first rest ending hfirst ⟨rfl, rfl⟩
    rwa [List.append_nil]
  · exact fun trace ending hstopped _ => hstopped

theorem always_pause {P : Property I} {ms : Nat} (hdone : ms = 0 → P [] (.done ()))
    (hcut : P [] .cutOff) (hslept : P [.slept ms] (.done ())) :
    Always P (pause ms : Script I Unit) := by
  unfold pause
  split
  · next hms => exact hdone hms
  · exact ⟨hcut, hslept⟩

/-! ## Properties that go over from parts to the whole -/

/-- A property of a run that has it because its parts have it. -/
structure Sequential (P : Property I) : Prop where
  nothing : P [] (.done ())
  append : ∀ {first rest ending}, P first (.done ()) → P rest ending → P (first ++ rest) ending

namespace Sequential

variable {P : Property I}

theorem bind (hP : Sequential P) {script : Script I α} {next : α → Script I β}
    (h : Always P script) (hnext : ∀ value, Always P (next value)) : Always P (script >>= next) :=
  h.bind_of hnext (fun _ _ _ => hP.append) fun _ _ hstopped _ => hstopped

theorem each (hP : Sequential P) {step : α → Script I Unit} {items : List α}
    (h : ∀ item ∈ items, Always P (step item)) : Always P (each step items) := by
  induction items with
  | nil => exact hP.nothing
  | cons item items ih =>
    refine hP.bind (h item List.mem_cons_self) fun _ => ih fun other hother => ?_
    exact h other (List.mem_cons_of_mem item hother)

theorem times (hP : Sequential P) {script : Script I Unit} (h : Always P script) (count : Nat) :
    Always P (times count script) := by
  induction count with
  | zero => exact hP.nothing
  | succ count ih => exact hP.bind h fun _ => ih

end Sequential

/-! ## Failures of calls -/

/-- A call that fails is the last thing that happens, and its error is how the run ends. -/
def FailsAtOnce (trace : List (Occurrence I)) (ending : Ending Unit) : Prop :=
  ∀ before c error after, trace = before ++ .called c (.error error) :: after →
    after = [] ∧ ending = .failed error

theorem failsAtOnce_of_forall_notMem {trace : List (Occurrence I)}
    (h : ∀ c error, .called c (.error error) ∉ trace) (ending : Ending Unit) :
    FailsAtOnce trace ending := by
  rintro before c error after rfl
  exact absurd (List.mem_append_right before List.mem_cons_self) (h c error)

theorem failsAtOnce_nil (ending : Ending Unit) : FailsAtOnce ([] : List (Occurrence I)) ending :=
  failsAtOnce_of_forall_notMem (fun _ _ => List.not_mem_nil) ending

theorem sequential_failsAtOnce : Sequential (I := I) FailsAtOnce where
  nothing := failsAtOnce_nil _
  append := by
    intro first rest ending hfirst hrest before c error after h
    rcases List.append_eq_append_iff.1 h with ⟨more, hbefore, hmore⟩ | ⟨more, hfront, hmore⟩
    · exact hrest more c error after hmore
    · -- The failed call would stand in the first part, which is done.
      cases more with
      | nil => exact hrest [] c error after hmore.symm
      | cons occurrence more =>
        rw [List.cons_append] at hmore
        obtain ⟨rfl, -⟩ := List.cons.inj hmore
        obtain ⟨-, hending⟩ := hfirst before c error more hfront
        cases hending

theorem always_failsAtOnce_ask (c : I.Call) : Always FailsAtOnce (ask c) := by
  refine always_ask ?_ ?_
  · intro reply
    refine failsAtOnce_of_forall_notMem (fun asked error hmem => ?_) _
    cases List.mem_singleton.1 hmem
  · intro refusal before asked error after h
    -- The refusal is all that has happened.
    cases before with
    | nil =>
      obtain ⟨hhere, rfl⟩ := List.cons.inj h
      obtain ⟨rfl, hanswer⟩ := Occurrence.called.inj hhere
      cases hanswer
      exact ⟨rfl, rfl⟩
    | cons occurrence before => simp at h

-- Only the rules above open the definition: unfolding it makes Lean evaluate the script.
attribute [irreducible] Always

end Script

end Deskhand
