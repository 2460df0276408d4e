/-
  Deskhand.Proofs.Server.History

  Requests do not disturb each other.

  A server keeps its parse cache, its devices and its clock from one request to the next. In a dry
  run without a browser none of these can be seen in an answer: the cache is faithful, however full
  it is, the devices say the same to every call, and plans are timed from their start. What one
  request does leave to the next are the files, and the identifiers that it has used up. So the next
  request is answered as by a server that starts with these files and goes on with these
  identifiers.
-/

import Deskhand.Agent.Workplace
import Deskhand.Proofs.Execution.Lockstep
import Deskhand.Proofs.Server.Endpoints

namespace Deskhand

open Deskhand.Desk
open Deskhand.Execution

/-! ## Servers in step -/

namespace Server

variable {I : Interface} {σ τ : Type} {R : σ → τ → Prop} {delay : Nat} {s : Situation σ}
  {t : Situation τ}

/-- The server with another host. -/
def on (server : Server I σ) (host : Host I τ) : Server I τ :=
  ⟨server.agent, host, server.generate, server.origins⟩

/-- Exchanges that cannot be told apart, the second one being `delay` later. -/
structure Matches (R : σ → τ → Prop) (delay : Nat) (exchange : Exchange I σ)
    (other : Exchange I τ) : Prop where
  response : exchange.response = other.response
  prompts : exchange.prompts = other.prompts
  after : Execution.Matches R delay exchange.after other.after
  trace : exchange.trace = other.trace

theorem matches_idle (response : Http.Response) (h : Execution.Matches R delay s t) :
    Matches (I := I) R delay (idle response s) (idle response t) :=
  ⟨rfl, rfl, h, rfl⟩

theorem matches_ofOutcome {outcome : Agent.Outcome I σ} {other : Agent.Outcome I τ}
    (h : Agent.Outcome.Matches R delay outcome other) :
    Matches R delay (ofOutcome outcome) (ofOutcome other) := by
  refine ⟨?_, h.prompts, h.after, h.trace⟩
  simp only [ofOutcome, h.result]

theorem matches_serve (server : Server I σ) {other : Host I τ}
    (hosts : InStep server.host other R) (h : Execution.Matches R delay s t) (endpoint : Endpoint)
    (request : Http.Request) :
    Matches R delay (server.serve endpoint request s)
      ((server.on other).serve endpoint request t) := by
  unfold serve
  cases endpoint with
  | health => exact matches_idle _ h
  | execute =>
    simp only
    cases readBody request >>= instructionOf with
    | error error => exact matches_idle _ h
    | ok instruction =>
      exact matches_ofOutcome (server.agent.matches_run hosts h server.generate instruction)
  | plan =>
    simp only
    cases readBody request >>= planOf with
    | error error => exact matches_idle _ h
    | ok value => exact matches_ofOutcome (server.agent.matches_runValue hosts h value)

/-- A request is answered alike on hosts that are in step. -/
theorem matches_respond (server : Server I σ) {other : Host I τ}
    (hosts : InStep server.host other R) (h : Execution.Matches R delay s t)
    (request : Http.Request) :
    Matches R delay (server.respond request s) ((server.on other).respond request t) := by
  have hroute : Matches R delay (server.route request s) ((server.on other).route request t) := by
    unfold route
    simp only
    -- Every branch looks at the request only.
    split
    · exact matches_idle _ h
    · cases Endpoint.ofPath? request.path with
      | none => exact matches_idle _ h
      | some endpoint =>
        simp only
        split
        · exact server.matches_serve hosts h endpoint request
        · exact matches_idle _ h
  refine ⟨?_, hroute.prompts, hroute.after, hroute.trace⟩
  simp only [respond, hroute.response]
  rfl

/-- A faithful cache stays faithful, whatever is asked for. -/
theorem faithful_respond (server : Server I σ) (request : Http.Request)
    (h : s.cache.Faithful) : (server.respond request s).after.cache.Faithful := by
  -- A host is in step with itself, so the invariant of the cache comes with the first half.
  have hsame : Execution.Matches Eq 0 s s := ⟨rfl, rfl, h, h⟩
  exact (server.matches_respond (InStep.refl server.host) hsame request).after.left

end Server

/-! ## Worlds in step -/

namespace Desk

/-- Peripherals that give the same answer to a call whenever it comes. -/
structure Peripherals.Steady {π : Type} (p : Peripherals π) : Prop where
  device : ∀ c s t, (p.device c s).1 = (p.device c t).1
  launch : ∀ request s t, (p.launch request s).1 = (p.launch request t).1
  page : ∀ c s t, (p.page c s).1 = (p.page c t).1

/-- A world with the files of another one, in which `drawn` identifiers fewer were given out. -/
structure Restarts {π : Type} (drawn : Nat) (fresh used : World π) : Prop where
  files : fresh.files = used.files
  identifiers : used.identifiers = drawn + fresh.identifiers

/-- The identifiers that are left when some were given out. -/
def identifiersFrom (identifier : Nat → String) (drawn n : Nat) : String := identifier (drawn + n)

/-- A host that is dealt the identifiers that are left is in step with the host that has given out
the others. -/
theorem inStep_restarts {π : Type} {p : Peripherals π} (hp : p.Steady) (identifier : Nat → String)
    (drawn : Nat) :
    InStep (host p (identifiersFrom identifier drawn)) (host p identifier) (Restarts drawn) where
  answer c s t h := by
    cases c with
    | device c => exact hp.device c _ _
    | launch request => exact hp.launch request _ _
    | page c => exact hp.page c _ _
    -- The files are the same in both worlds, and so is what comes of saving.
    | save path content => simp only [host, answer, h.files]
    | identifier => simp only [host, answer, identifiersFrom, h.identifiers]
  state c s t h := by
    cases c with
    | device c => exact ⟨h.files, h.identifiers⟩
    | launch request => exact ⟨h.files, h.identifiers⟩
    | page c => exact ⟨h.files, h.identifiers⟩
    | save path content =>
      refine ⟨?_, h.identifiers⟩
      simp only [host, answer, h.files]
    | identifier =>
      refine ⟨h.files, ?_⟩
      simp only [host, answer, h.identifiers]
      omega

end Desk

/-! ## A history of requests -/

namespace AgentSettings

/-- The server of the agent that settings describe, at a place. -/
def router (s : AgentSettings) (place : Workplace) (identifier : Nat → String)
    (generate : Generator) : Server desk (World Nat) :=
  ⟨s.agent place, s.host place identifier, generate, s.server.allowedOrigins⟩

/-- The situation after some requests to one server, which starts with some files. The generator may
change its mind from one request to the next. -/
def situationAfter (s : AgentSettings) (place : Workplace) (identifier : Nat → String)
    (files : Files.FileTree) (history : List (Generator × Http.Request)) : Situation (World Nat) :=
  history.foldl
    (fun before (generate, request) =>
      ((s.router place identifier generate).respond request before).after)
    (s.start files)

theorem faithful_situationAfter (s : AgentSettings) (place : Workplace) (identifier : Nat → String)
    (files : Files.FileTree) (history : List (Generator × Http.Request)) :
    (s.situationAfter place identifier files history).cache.Faithful := by
  have hstart : (s.start files).cache.Faithful := Command.Cache.faithful_empty s.cacheCapacity
  unfold situationAfter
  generalize s.start files = before at hstart ⊢
  induction history generalizing before with
  | nil => exact hstart
  | cons visit history ih =>
    obtain ⟨generate, request⟩ := visit
    exact ih _ ((s.router place identifier generate).faithful_respond request hstart)

/-- In a dry run without a browser nothing depends on the calls that were made before. -/
theorem steady_peripherals {s : AgentSettings} {place : Workplace} (hdry : s.dryRun = true)
    (hpage : place.page = none) : (s.peripherals place).Steady := by
  -- Devices that only record and a browser that is not there give one answer only.
  have hperipherals : s.peripherals place = .of .recording .recording noPage := by
    simp [peripherals, device, launcher, hdry, hpage]
  rw [hperipherals]
  exact ⟨fun _ _ _ => rfl, fun _ _ _ => rfl, fun _ _ _ => rfl⟩

/-- **Requests do not disturb each other.** In a dry run without a browser, whatever the capacity of
the parse cache and the time limit of plans: after any requests, those included that failed or ran
out of time, and whatever the generator answered to them, the next request is answered as by a new
server that starts with the files that are there and is dealt the identifiers that come next. It
puts the same prompts to the generator, makes the same calls and leaves the same files. -/
theorem respond_eq_of_history {s : AgentSettings} {place : Workplace} (hdry : s.dryRun = true)
    (hpage : place.page = none) (identifier : Nat → String) (files : Files.FileTree)
    (history : List (Generator × Http.Request)) (generate : Generator) (request : Http.Request) :
    let used := s.situationAfter place identifier files history
    let next := identifiersFrom identifier used.state.identifiers
    let exchange := (s.router place identifier generate).respond request used
    let other := (s.router place next generate).respond request (s.start used.state.files)
    exchange.response = other.response ∧ exchange.prompts = other.prompts ∧
      exchange.trace = other.trace ∧ exchange.after.state.files = other.after.state.files := by
  intro used next exchange other
  -- The new server starts where the used one has come to: at the same files, with an empty cache,
  -- at time zero.
  have hosts : InStep (s.host place next) (s.host place identifier)
      (Restarts used.state.identifiers) :=
    inStep_restarts (steady_peripherals hdry hpage) identifier used.state.identifiers
  have hstart : Execution.Matches (Restarts used.state.identifiers) used.clock
      (s.start used.state.files) used := by
    refine ⟨⟨rfl, rfl⟩, (Nat.zero_add _).symm, ?_, ?_⟩
    · exact Command.Cache.faithful_empty s.cacheCapacity
    · exact s.faithful_situationAfter place identifier files history
  have hmatches := (s.router place next generate).matches_respond hosts hstart request
  exact ⟨hmatches.response.symm, hmatches.prompts.symm, hmatches.trace.symm,
    hmatches.after.state.files.symm⟩

/-- A plan that was cut off while it waited, and an answer without a plan. The cache is full, a
second has passed, and a picture has the first name that is left. -/
theorem respond_eq_of_history_cutOff :
    let s : AgentSettings :=
      { standard with cacheCapacity := some 1, planTimeoutSecs := some 1, dryRun := true }
    let place : Workplace := ⟨.linux, "/", fun _ => false, none⟩
    let sending (plan : Plan) : Http.Request := Server.posting .plan plan.body
    let asking : Http.Request := Server.posting .execute (.object [("instruction", .string "go")])
    let history : List (Generator × Http.Request) :=
      [(fun _ => "[]", sending ["takeScreenshot()", "wait(5000)"]), (fun _ => "no", asking)]
    let generate : Generator := fun _ => "[\"takeScreenshot()\"]"
    s.dryRun = true ∧ place.page = none ∧
      (let used := s.situationAfter place toString ⟨[], []⟩ history
       used.clock = 1000 ∧ used.state.identifiers = 1 ∧ used.cache.entries.length = 1) ∧
      (let used := s.situationAfter place toString ⟨[], []⟩ history
       let next := identifiersFrom toString used.state.identifiers
       let exchange := (s.router place toString generate).respond asking used
       let other := (s.router place next generate).respond asking (s.start used.state.files)
       exchange.response = other.response ∧ exchange.prompts = other.prompts ∧
         exchange.trace = other.trace ∧ exchange.after.state.files = other.after.state.files) := by
  intro s place sending asking history generate
  have hdry : s.dryRun = true := rfl
  have hpage : place.page = none := rfl
  have hused := respond_eq_of_history hdry hpage toString ⟨[], []⟩ history generate asking
  exact ⟨hdry, hpage, by decide +kernel, hused⟩

end AgentSettings

end Deskhand
