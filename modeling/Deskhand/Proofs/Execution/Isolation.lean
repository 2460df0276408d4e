/-
  Deskhand.Proofs.Execution.Isolation

  Bad commands do not disturb their neighbours.

  Two runs side by side: a plan, and the same plan without some of its commands that cannot be read
  or name no handler. Such a command still goes through the parser and may take the last free place
  of the cache, so from then on the two runs have different caches. What they keep in common is
  their state and their time, and that both caches are faithful; that is enough for every later
  command to do the same in both.
-/

import Deskhand.Proofs.Execution.Dispatch

namespace Deskhand.Execution

variable {I : Interface} {σ α : Type}

/-! ## Deleting positions of a list -/

/-- The list without the members at the positions where `bad` holds. -/
def deleteAt (bad : Nat → Bool) : List α → List α
  | [] => []
  | x :: rest =>
    if bad 0 then deleteAt (fun i => bad (i + 1)) rest
    else x :: deleteAt (fun i => bad (i + 1)) rest

/-- Deleting pairs of neighbours, one pair at a time. -/
theorem deleteAt_pair (bad : Nat → Bool) (x y : α) (rest : List α) :
    deleteAt (fun j => bad (j / 2)) (x :: y :: rest) =
      if bad 0 then deleteAt (fun j => bad (j / 2 + 1)) rest
      else x :: y :: deleteAt (fun j => bad (j / 2 + 1)) rest := by
  have hhalf (j : Nat) : (j + 1 + 1) / 2 = j / 2 + 1 := by omega
  cases h : bad 0 <;> simp [deleteAt, h, hhalf]

example : deleteAt (fun j => j / 2 == 1) [10, 11, 20, 21, 30, 31] = [10, 11, 30, 31] := rfl

/-! ## Two runs in step -/

/-- Situations that differ at most in what their faithful caches hold. -/
structure Alike (s t : Situation σ) : Prop where
  state : s.state = t.state
  clock : s.clock = t.clock
  left : s.cache.Faithful
  right : t.cache.Faithful

/-- A command that is not well formed, or that names no handler. -/
def Undispatched (registry : Registry I) (command : String) : Prop :=
  (∃ error, Command.parseFresh command = .error error) ∨
    ∃ parsed, Command.parseFresh command = .ok parsed ∧ registry.contains parsed.name = false

theorem Undispatched.request?_eq_none {registry : Registry I} {command : String}
    (h : Undispatched registry command) : request? registry command = none := by
  unfold request?
  rcases h with ⟨error, hfresh⟩ | ⟨parsed, hfresh, hcontains⟩
  · rw [hfresh]
  · rw [hfresh]
    simpa [Registry.contains] using hcontains

theorem Alike.attempt {s t : Situation σ} (h : Alike s t) (registry : Registry I) (host : Host I σ)
    (deadline : Option Nat) (command : String) :
    let first := Execution.attempt registry host deadline command s
    let second := Execution.attempt registry host deadline command t
    first.outcome = second.outcome ∧ first.trace = second.trace ∧
      Alike first.after second.after := by
  -- The two caches may come to hold different things, but both stay faithful.
  have hleft := (h.left.parse command).2
  have hright := (h.right.parse command).2
  rw [attempt_eq h.left, attempt_eq h.right]
  cases Command.parseFresh command with
  | error error => exact ⟨rfl, rfl, h.state, h.clock, hleft, hright⟩
  | ok parsed =>
    simp only
    cases registry.lookup parsed.name with
    | none => exact ⟨rfl, rfl, h.state, h.clock, hleft, hright⟩
    | some handler =>
      rw [h.state, h.clock]
      exact ⟨rfl, rfl, rfl, rfl, hleft, hright⟩

/-- A plan and the plan without some commands that are not dispatched stay in step. -/
theorem Alike.execute_deleteAt {s t : Situation σ} (h : Alike s t) (registry : Registry I)
    (host : Host I σ) (deadline : Option Nat) (plan : Plan) (bad : Nat → Bool)
    (hbad : ∀ i command, plan[i]? = some command → bad i = true → Undispatched registry command) :
    let full := execute registry host deadline plan s
    let kept := execute registry host deadline (deleteAt bad plan) t
    kept.trace = full.trace ∧ Alike full.after kept.after ∧
      kept.log = full.log.map (deleteAt fun j => bad (j / 2)) := by
  induction plan generalizing s t bad with
  | nil => exact ⟨rfl, h, rfl⟩
  | cons command rest ih =>
    have hrest : ∀ i other, rest[i]? = some other → bad (i + 1) = true →
        Undispatched registry other := fun i => hbad (i + 1)
    by_cases hfirst : bad 0 = true
    · -- Only the run of the whole plan takes a step, and only its cache changes.
      have hrequest := (hbad 0 command rfl hfirst).request?_eq_none
      obtain ⟨error, hattempt, -⟩ := attempt_of_request?_none h.left hrequest host deadline
      have halike : Alike { s with cache := (Command.parse s.cache command).2 } t :=
        ⟨h.state, h.clock, (h.left.parse command).2, h.right⟩
      obtain ⟨htrace, hafter, hlog⟩ := ih halike (fun i => bad (i + 1)) hrest
      rw [deleteAt, if_pos hfirst]
      simp only [execute, hattempt]
      refine ⟨htrace, hafter, ?_⟩
      rw [hlog, Option.map_map]
      congr 1
      funext log
      simp [deleteAt_pair, hfirst]
    · -- Both runs take the same step.
      obtain ⟨houtcome, htraces, halike⟩ := h.attempt registry host deadline command
      obtain ⟨htrace, hafter, hlog⟩ := ih halike (fun i => bad (i + 1)) hrest
      rw [deleteAt, if_neg hfirst]
      simp only [execute]
      rw [← houtcome]
      cases (Execution.attempt registry host deadline command s).outcome with
      | none => exact ⟨htraces.symm, halike, rfl⟩
      | some outcome =>
        refine ⟨by rw [htraces, htrace], hafter, ?_⟩
        simp only [hlog, Option.map_map]
        congr 1
        funext log
        simp [deleteAt_pair, hfirst]

/-- **Failure isolation.** Without a time limit, a plan and the plan without some commands that are
not well formed or name no handler start the same handlers with the same arguments in the same
order, and everything else that happens is the same too; they leave the same state behind, at the
same time; and the second log is the first one without the two entries of each deleted command. -/
theorem execute_deleteAt_of_undispatched (registry : Registry I) (host : Host I σ)
    (capacity : Option Nat) (moves : List Command.Move) (plan : Plan) (bad : Nat → Bool)
    (state : σ) (clock : Nat)
    (hbad : ∀ i command, plan[i]? = some command → bad i = true → Undispatched registry command) :
    let before : Situation σ := ⟨((Command.Pool.start capacity).run moves).cache, state, clock⟩
    let full := execute registry host none plan before
    let kept := execute registry host none (deleteAt bad plan) before
    kept.trace.filterMap Occurrence.start? = full.trace.filterMap Occurrence.start? ∧
      kept.trace = full.trace ∧ kept.after.state = full.after.state ∧
      kept.after.clock = full.after.clock ∧
      ∃ log, full.log = some log ∧ kept.log = some (deleteAt (fun j => bad (j / 2)) log) := by
  intro before full kept
  have hcache : before.cache.Faithful := ((Command.Pool.consistent_start capacity).run moves).cache
  have halike : Alike before before := ⟨rfl, rfl, hcache, hcache⟩
  obtain ⟨htrace, hafter, hlog⟩ := halike.execute_deleteAt registry host none plan bad hbad
  obtain ⟨⟨log, hfull, -⟩, -, -⟩ := execute_serves registry host plan before hcache
  refine ⟨congrArg (List.filterMap Occurrence.start?) htrace, htrace, hafter.state.symm,
    hafter.clock.symm, log, hfull, ?_⟩
  rw [show kept.log = full.log.map _ from hlog, show full.log = some log from hfull]
  rfl

/-- A host that counts how often it was asked. -/
def counter : Host ⟨Unit, fun _ => Nat⟩ Nat := ⟨fun _ count => (.ok count, count + 1)⟩

def counting : Registry ⟨Unit, fun _ => Nat⟩ :=
  Registry.empty.register "count" fun _ => .call () fun
    | .ok count => .done (some (toString count))
    | .error error => .fail error

/-- The unknown command takes the only place of the cache, where the counting commands would have
been, and another command is not well formed: neither can be seen in what the rest does. -/
theorem execute_deleteAt_counting :
    let plan := ["ghost(1)", "count()", "nope", "count()"]
    let bad (i : Nat) : Bool := i == 0 || i == 2
    let before : Situation Nat := ⟨.empty (some 1), 0, 0⟩
    let full := execute counting counter none plan before
    let kept := execute counting counter none ["count()", "count()"] before
    (∀ i command, plan[i]? = some command → bad i = true → Undispatched counting command) ∧
      kept.trace = full.trace ∧ kept.after.state = full.after.state ∧
      ∃ log, full.log = some log ∧ kept.log = some (deleteAt (fun j => bad (j / 2)) log) := by
  intro plan bad before full kept
  have hghost : Undispatched counting "ghost(1)" :=
    .inr ⟨⟨"ghost", Command.readArguments ['1']⟩, rfl, by decide⟩
  have hnope : Undispatched counting "nope" := .inl ⟨_, rfl⟩
  have hbad : ∀ i command, plan[i]? = some command → bad i = true →
      Undispatched counting command := by
    intro i command hcommand hi
    have hcases : i = 0 ∨ i = 2 := by simpa [bad] using hi
    rcases hcases with rfl | rfl
    · obtain rfl : "ghost(1)" = command := by simpa [plan] using hcommand
      exact hghost
    · obtain rfl : "nope" = command := by simpa [plan] using hcommand
      exact hnope
  obtain ⟨-, htrace, hstate, -, hlog⟩ :=
    execute_deleteAt_of_undispatched counting counter (some 1) [] plan bad 0 0 hbad
  exact ⟨hbad, htrace, hstate, hlog⟩

end Deskhand.Execution
