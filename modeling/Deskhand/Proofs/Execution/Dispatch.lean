/-
  Deskhand.Proofs.Execution.Dispatch

  What a plan runs, and what its log says.

  A plan asks for handlers: each of its commands that can be read and names a handler is a
  *request*. Serving requests is the plain part of the work, without a parser, a cache or a log: the
  handlers run one after the other, each from the state and the time that the one before it left.
  The executor does exactly this, whatever the cache holds that it was given, and its log has two
  entries for each command, the second of which tells what the invocation for that command came to.
-/

import Deskhand.Execution.Executor
import Deskhand.Proofs.Command.SharedCache
import Deskhand.Proofs.Script

namespace Deskhand.Execution

variable {I : Interface} {σ : Type}

/-! ## Requests and invocations -/

/-- A handler to be run with some arguments. -/
structure Request (I : Interface) where
  name : String
  args : List Argument
  handler : Handler I

/-- The request of a command, if it can be read and names a handler. -/
def request? (registry : Registry I) (command : String) : Option (Request I) :=
  match Command.parseFresh command with
  | .error _ => none
  | .ok parsed =>
    (registry.lookup parsed.name).map fun handler => ⟨parsed.name, parsed.args, handler⟩

def requests (registry : Registry I) (plan : Plan) : List (Request I) :=
  plan.filterMap (request? registry)

/-- A request and the run of its handler. -/
structure Invocation (I : Interface) (σ : Type) where
  request : Request I
  run : Script.Run I σ (Option String)

def Invocation.trace (invocation : Invocation I σ) : List (Occurrence I) :=
  .started invocation.request.name invocation.request.args :: invocation.run.trace

def Request.invoke (request : Request I) (host : Host I σ) (deadline : Option Nat) (state : σ)
    (clock : Nat) : Invocation I σ :=
  ⟨request, (request.handler request.args).run host deadline state clock⟩

/-- Runs handlers one after the other, each from where the one before it ended. -/
def serve (host : Host I σ) : List (Request I) → σ → Nat → List (Invocation I σ)
  | [], _, _ => []
  | request :: rest, state, clock =>
    let invocation := request.invoke host none state clock
    invocation :: serve host rest invocation.run.state invocation.run.clock

/-- The state that invocations leave behind. -/
def stateAfter (invocations : List (Invocation I σ)) (state : σ) : σ :=
  (invocations.getLast?.map (·.run.state)).getD state

@[simp] theorem requests_cons (registry : Registry I) (command : String) (rest : Plan) :
    requests registry (command :: rest) =
      (request? registry command).toList ++ requests registry rest := by
  unfold requests
  cases h : request? registry command <;> simp [h]

theorem stateAfter_cons (invocation : Invocation I σ) (rest : List (Invocation I σ)) (state : σ) :
    stateAfter (invocation :: rest) state = stateAfter rest invocation.run.state := by
  unfold stateAfter
  cases rest with
  | nil => rfl
  | cons next rest =>
    rw [List.getLast?_cons_cons]
    cases h : (next :: rest).getLast? with
    | none => simp at h
    | some last => rfl

/-- The handlers that a trace of invocations starts are those of the requests, in order. -/
theorem serve_starts (host : Host I σ) (asked : List (Request I)) (state : σ) (clock : Nat) :
    ((serve host asked state clock).flatMap Invocation.trace).filterMap Occurrence.start? =
      asked.map fun request => (request.name, request.args) := by
  induction asked generalizing state clock with
  | nil => rfl
  | cons request rest ih =>
    have hrun := Script.run_starts host none (request.handler request.args) state clock
    simp [serve, Request.invoke, Invocation.trace, Occurrence.start?, hrun, ih]

/-! ## One command -/

/-- What a command's second log entry has to say, given the invocation that was made for it. -/
def Reports (registry : Registry I) (command : String) (invocation : Option (Invocation I σ))
    (entry : LogEntry) : Prop :=
  match Command.parseFresh command with
  | .error _ => entry = ⟨command, .failed, some ("Invalid command format: " ++ command)⟩
  | .ok parsed =>
    match registry.lookup parsed.name with
    | none => entry = ⟨command, .failed, some ("unknown command: " ++ parsed.name ++ "()")⟩
    | some handler =>
      ∃ run, invocation = some ⟨⟨parsed.name, parsed.args, handler⟩, run⟩ ∧
        ((∃ message, run.ending = .done message ∧ entry = ⟨command, .succeeded, message⟩) ∨
          ∃ error, run.ending = .failed error ∧
            entry = ⟨command, .failed, some (parsed.name ++ " failed: " ++ error.message)⟩)

/-- With a faithful cache a command is attempted as if it had been read without one. -/
theorem attempt_eq {before : Situation σ} (hcache : before.cache.Faithful) (registry : Registry I)
    (host : Host I σ) (deadline : Option Nat) (command : String) :
    attempt registry host deadline command before =
      let cache := (Command.parse before.cache command).2
      match Command.parseFresh command with
      | .error error => ⟨some (.error error), { before with cache }, []⟩
      | .ok parsed =>
        match registry.lookup parsed.name with
        | none => ⟨some (.error (.unknownCommand parsed.name)), { before with cache }, []⟩
        | some handler =>
          .ofRun parsed.name parsed.args cache
            ((handler parsed.args).run host deadline before.state before.clock) := by
  -- What a faithful cache gives is a fresh reading.
  have hparse := (hcache.parse command).1
  unfold attempt
  rcases hresult : Command.parse before.cache command with ⟨result, cache⟩
  rw [hresult] at hparse
  simp only at hparse
  rw [← hparse]
  cases result with
  | error error => rfl
  | ok parsed =>
    cases hlookup : registry.lookup parsed.name with
    | none => simp only [hlookup]
    | some handler => simp only [hlookup]

theorem parseFresh_eq_error {command : String} {error : PlanError}
    (h : Command.parseFresh command = .error error) : error = .commandFormat command := by
  unfold Command.parseFresh at h
  split at h
  · exact (Except.error.inj h).symm
  · simp at h

/-- A command that is no request fails at once: nothing happens, and only the cache may change. -/
theorem attempt_of_request?_none {registry : Registry I} {command : String} {before : Situation σ}
    (hcache : before.cache.Faithful) (hrequest : request? registry command = none) (host : Host I σ)
    (deadline : Option Nat) :
    ∃ error, attempt registry host deadline command before =
        ⟨some (.error error), { before with cache := (Command.parse before.cache command).2 }, []⟩ ∧
      ∀ invocation : Option (Invocation I σ),
        Reports registry command invocation (outcomeEntry command (.error error)) := by
  rw [attempt_eq hcache]
  unfold Reports
  cases hfresh : Command.parseFresh command with
  | error error =>
    refine ⟨error, rfl, fun _ => ?_⟩
    rw [parseFresh_eq_error hfresh]
    rfl
  | ok parsed =>
    -- The command can be read, so there is no handler for it.
    have hlookup : registry.lookup parsed.name = none := by
      simpa [request?, hfresh] using hrequest
    simp only [hlookup]
    exact ⟨.unknownCommand parsed.name, rfl, fun _ => rfl⟩

/-- A command that is a request invokes its handler, and without a deadline the invocation comes to
an outcome. -/
theorem attempt_of_request?_some {registry : Registry I} {command : String} {before : Situation σ}
    {request : Request I} (hcache : before.cache.Faithful)
    (hrequest : request? registry command = some request) (host : Host I σ) :
    let invocation := request.invoke host none before.state before.clock
    ∃ outcome, attempt registry host none command before =
        ⟨some outcome, ⟨(Command.parse before.cache command).2, invocation.run.state,
          invocation.run.clock⟩, invocation.trace⟩ ∧
      Reports registry command (some invocation) (outcomeEntry command outcome) := by
  intro invocation
  rw [attempt_eq hcache]
  unfold Reports
  unfold request? at hrequest
  cases hfresh : Command.parseFresh command with
  | error error => simp [hfresh] at hrequest
  | ok parsed =>
    simp only [hfresh, Option.map_eq_some_iff] at hrequest
    obtain ⟨handler, hlookup, rfl⟩ := hrequest
    simp only [hlookup, Attempt.ofRun]
    cases hrun : ((handler parsed.args).run host none before.state before.clock).ending with
    | done message => exact ⟨.ok message, rfl, _, rfl, .inl ⟨message, hrun, rfl⟩⟩
    | failed error =>
      exact ⟨.error (.handler parsed.name error), rfl, _, rfl, .inr ⟨error, hrun, rfl⟩⟩
    | cutOff =>
      -- There is no deadline to cut the handler off.
      have hending :=
        Script.run_ending_ne_cutOff host (handler parsed.args) before.state before.clock
      exact absurd hrun hending

/-! ## The log of a plan -/

/-- A log tells of each command of a plan in two entries: that it was attempted, and what came of
it. The invocation that was made for a command is the one whose turn it is after those made for the
commands before it. -/
structure Logged (registry : Registry I) (plan : Plan) (invocations : List (Invocation I σ))
    (log : Log) : Prop where
  length : log.length = 2 * plan.length
  attempted : ∀ i command, plan[i]? = some command →
    log[2 * i]? = some ⟨command, .attempted, none⟩
  reported : ∀ i command, plan[i]? = some command →
    ∃ entry, log[2 * i + 1]? = some entry ∧
      Reports registry command invocations[(requests registry (plan.take i)).length]? entry

theorem Logged.cons {registry : Registry I} {plan : Plan} {invocations : List (Invocation I σ)}
    {log : Log} (h : Logged registry plan invocations log) {command : String}
    (first : List (Invocation I σ))
    (hfirst : first.length = (request? registry command).toList.length)
    {entry : LogEntry} (hentry : Reports registry command (first ++ invocations)[0]? entry) :
    Logged registry (command :: plan) (first ++ invocations)
      (⟨command, .attempted, none⟩ :: entry :: log) := by
  refine ⟨?_, ?_, ?_⟩
  · have hlength := h.length
    simp only [List.length_cons]
    omega
  · intro i other hother
    cases i with
    | zero =>
      obtain rfl : command = other := by simpa using hother
      rfl
    | succ i => exact h.attempted i other hother
  · intro i other hother
    cases i with
    | zero =>
      obtain rfl : command = other := by simpa using hother
      exact ⟨entry, rfl, hentry⟩
    | succ i =>
      -- Requests of later commands are counted from behind those of the first one.
      obtain ⟨found, hfound, hreports⟩ := h.reported i other hother
      refine ⟨found, hfound, ?_⟩
      rw [List.take_succ_cons, requests_cons, List.length_append, ← hfirst,
        List.getElem?_append_right (Nat.le_add_right _ _), Nat.add_sub_cancel_left]
      exact hreports

/-- The executor serves the requests of its plan, and its log tells of it. -/
theorem execute_serves (registry : Registry I) (host : Host I σ) (plan : Plan)
    (before : Situation σ) (hcache : before.cache.Faithful) :
    let report := execute registry host none plan before
    let invocations := serve host (requests registry plan) before.state before.clock
    (∃ log, report.log = some log ∧ Logged registry plan invocations log) ∧
      report.trace = invocations.flatMap Invocation.trace ∧
      report.after.state = stateAfter invocations before.state := by
  induction plan generalizing before with
  | nil => exact ⟨⟨[], rfl, by simp, by simp, by simp⟩, rfl, rfl⟩
  | cons command rest ih =>
    have hafter := (hcache.parse command).2
    cases hrequest : request? registry command with
    | none =>
      -- The command takes no turn: the later ones find everything but the cache as it was.
      obtain ⟨error, hattempt, hreports⟩ := attempt_of_request?_none hcache hrequest host none
      obtain ⟨⟨log, hlog, hlogged⟩, htrace, hstate⟩ :=
        ih { before with cache := (Command.parse before.cache command).2 } hafter
      simp only [execute, hattempt, hlog, requests_cons, hrequest]
      refine ⟨⟨_, rfl, ?_⟩, htrace, hstate⟩
      exact hlogged.cons [] (by simp [hrequest]) (hreports _)
    | some request =>
      -- The command takes the first turn, and the later ones go on from where it ended.
      let invocation := request.invoke host none before.state before.clock
      obtain ⟨outcome, hattempt, hreports⟩ := attempt_of_request?_some hcache hrequest host
      obtain ⟨⟨log, hlog, hlogged⟩, htrace, hstate⟩ := ih
        ⟨(Command.parse before.cache command).2, invocation.run.state, invocation.run.clock⟩ hafter
      simp only [execute, hattempt, requests_cons, hrequest]
      refine ⟨⟨_, by rw [hlog]; rfl, ?_⟩, ?_, ?_⟩
      · exact hlogged.cons [invocation] (by simp [hrequest]) hreports
      · rw [htrace]
        rfl
      · rw [hstate]
        exact (stateAfter_cons _ _ _).symm

/-- **Log and dispatch.** Whatever the parsers that share a cache have done to it: a plan is run to
a log with two entries for each of its commands, the handlers that are started are those of the
commands that can be read and have one, in the order of the plan and with the arguments of a fresh
reading, what happens is one invocation after the other, and each outcome in the log is that of the
invocation made for its command, or says why there was none. -/
theorem execute_log_and_dispatch (registry : Registry I) (host : Host I σ)
    (capacity : Option Nat) (moves : List Command.Move) (plan : Plan) (state : σ) (clock : Nat) :
    let cache := ((Command.Pool.start capacity).run moves).cache
    let report := execute registry host none plan ⟨cache, state, clock⟩
    let invocations := serve host (requests registry plan) state clock
    (∃ log, report.log = some log ∧ Logged registry plan invocations log) ∧
      report.trace = invocations.flatMap Invocation.trace ∧
      report.trace.filterMap Occurrence.start? =
        (requests registry plan).map (fun request => (request.name, request.args)) ∧
      report.after.state = stateAfter invocations state := by
  intro cache report invocations
  have hcache : cache.Faithful := ((Command.Pool.consistent_start capacity).run moves).cache
  obtain ⟨hlog, htrace, hstate⟩ := execute_serves registry host plan ⟨cache, state, clock⟩ hcache
  refine ⟨hlog, htrace, ?_, hstate⟩
  rw [show report.trace = invocations.flatMap Invocation.trace from htrace]
  exact serve_starts host (requests registry plan) state clock

end Deskhand.Execution
