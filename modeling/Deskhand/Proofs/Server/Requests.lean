/-
  Deskhand.Proofs.Server.Requests

  What is done with a request.

  A request that posts to one of the two endpoints for plans is read, and then either refused or
  handed to the agent; every other request is answered out of hand. What the agent is handed for an
  instruction has been trimmed and is not empty, so the agent has nothing against the instruction
  itself: what is wrong then is wrong with the answer, or the time is up.
-/

import Deskhand.Proofs.Execution.Attempts
import Deskhand.Proofs.Plan.Verdicts
import Deskhand.Server

namespace Deskhand

open Deskhand.Execution

variable {I : Interface} {σ : Type}

/-! ## Requests -/

/-- A request that posts to an endpoint. -/
def Posts (request : Http.Request) (endpoint : Endpoint) : Prop :=
  request.method = "POST" ∧ request.path = endpoint.path

instance (request : Http.Request) (endpoint : Endpoint) : Decidable (Posts request endpoint) :=
  inferInstanceAs (Decidable (_ ∧ _))

/-- A request whose body is taken for a JSON value: the request says that it is JSON, it is not too
long, and the value stands at its start. -/
structure Carries (request : Http.Request) (value : Json) : Prop where
  saysJson : saysJson request = true
  short : request.body.length ≤ maxBodyBytes
  reads : ∃ rest, Json.readLeading (Text.Utf8.leading request.body) = .ok (value, rest)

/-- A request whose body is taken for no JSON value. -/
def Rejected (request : Http.Request) : Prop := ∀ value, ¬ Carries request value

/-- A value is an object that holds an instruction: a string with more than blanks in it. -/
def HasInstruction (body : Json) (instruction : String) : Prop :=
  ∃ members, body = .object members ∧
    Keyed.get? "instruction" members = some (.string instruction) ∧ Text.trim instruction ≠ ""

theorem HasInstruction.trim_ne {body : Json} {instruction : String}
    (h : HasInstruction body instruction) : Text.trim instruction ≠ "" := by
  obtain ⟨-, -, -, hfilled⟩ := h
  exact hfilled

/-- What a request carries is what is read from it. -/
theorem readBody_eq_ok_iff {request : Http.Request} {value : Json} :
    readBody request = .ok value ↔ Carries request value := by
  constructor
  · intro h
    unfold readBody at h
    split at h
    · cases h
    · next hjson =>
      split at h
      · cases h
      · next hlong =>
        split at h
        · next found rest hread =>
          obtain rfl := Except.ok.inj h
          exact ⟨by simpa using hjson, by omega, rest, hread⟩
        · cases h
  · rintro ⟨hjson, hshort, rest, hread⟩
    simp [readBody, hjson, Nat.not_lt.2 hshort, hread]

theorem Carries.unique {request : Http.Request} {value other : Json} (h : Carries request value)
    (hother : Carries request other) : value = other :=
  Except.ok.inj ((readBody_eq_ok_iff.2 h).symm.trans (readBody_eq_ok_iff.2 hother))

/-- A body that cannot be read is the fault of the request. -/
theorem exists_badRequest_of_readBody {request : Http.Request} {error : RequestError}
    (h : readBody request = .error error) : ∃ text, error = .badRequest text := by
  unfold readBody at h
  split at h
  · exact ⟨_, (Except.error.inj h).symm⟩
  · split at h
    · exact ⟨_, (Except.error.inj h).symm⟩
    · split at h
      · cases h
      · exact ⟨_, (Except.error.inj h).symm⟩

theorem instructionOf_of_hasInstruction {body : Json} {instruction : String}
    (h : HasInstruction body instruction) :
    instructionOf body = .ok (Text.trim instruction) := by
  obtain ⟨members, rfl, hmember, hblank⟩ := h
  simp [instructionOf, Json.get?, hmember, Json.asString?, hblank]

theorem readInstruction_of_carries {request : Http.Request} {body : Json} {instruction : String}
    (hbody : Carries request body) (hinstruction : HasInstruction body instruction) :
    readBody request >>= instructionOf = .ok (Text.trim instruction) := by
  simp only [readBody_eq_ok_iff.2 hbody, bind, Except.bind]
  exact instructionOf_of_hasInstruction hinstruction

theorem exists_member_of_asString? {body : Json} {key text : String}
    (h : (body.get? key).bind Json.asString? = some text) :
    ∃ members, body = .object members ∧ Keyed.get? key members = some (.string text) := by
  -- Only objects have members, and only strings are taken for strings.
  obtain ⟨value, hmember, hstring⟩ := Option.bind_eq_some_iff.1 h
  cases body with
  | object members =>
    cases value with
    | string found =>
      obtain rfl : found = text := Option.some.inj hstring
      exact ⟨members, rfl, hmember⟩
    | _ => cases hstring
  | _ => cases hmember

theorem instructionOf_of_forall_not {body : Json}
    (h : ∀ instruction, ¬ HasInstruction body instruction) :
    ∃ text, instructionOf body = .error (.badRequest text) := by
  -- Whatever stands in the place of the instruction is blank.
  have hblank : Text.trim (((body.get? "instruction").bind Json.asString?).getD "") = "" := by
    cases hvalue : (body.get? "instruction").bind Json.asString? with
    | none => rfl
    | some instruction =>
      obtain ⟨members, hbody, hmember⟩ := exists_member_of_asString? hvalue
      exact Decidable.byContradiction fun hfilled =>
        h instruction ⟨members, hbody, hmember, hfilled⟩
  exact ⟨_, by rw [instructionOf, hblank]; rfl⟩

/-- The instruction of a request is read, or the request is to blame. -/
theorem readInstruction_cases (request : Http.Request) :
    (∃ body instruction, Carries request body ∧ HasInstruction body instruction ∧
        readBody request >>= instructionOf = .ok (Text.trim instruction)) ∨
      ((∀ body instruction, Carries request body → ¬ HasInstruction body instruction) ∧
        ∃ text, readBody request >>= instructionOf = .error (.badRequest text)) := by
  cases hread : readBody request with
  | error error =>
    obtain ⟨text, rfl⟩ := exists_badRequest_of_readBody hread
    refine .inr ⟨fun body instruction hbody => ?_, text, rfl⟩
    rw [readBody_eq_ok_iff.2 hbody] at hread
    cases hread
  | ok body =>
    have hbody := readBody_eq_ok_iff.1 hread
    by_cases hhas : ∃ instruction, HasInstruction body instruction
    · obtain ⟨instruction, hinstruction⟩ := hhas
      refine .inl ⟨body, instruction, hbody, hinstruction, ?_⟩
      rw [← hread]
      exact readInstruction_of_carries hbody hinstruction
    · rw [not_exists] at hhas
      simp only [bind, Except.bind]
      refine .inr ⟨fun other instruction hother => ?_, instructionOf_of_forall_not hhas⟩
      rw [hother.unique hbody]
      exact hhas instruction

/-! ## Routes -/

namespace Endpoint

theorem ofPath?_path (endpoint : Endpoint) : ofPath? endpoint.path = some endpoint := by
  cases endpoint <;> decide

/-- An endpoint is found at its own path only. -/
theorem eq_path_of_ofPath? {path : String} {endpoint : Endpoint}
    (h : ofPath? path = some endpoint) : path = endpoint.path := by
  have hfound := List.find?_some h
  exact (eq_of_beq hfound).symm

end Endpoint

namespace Server

/-- Nothing about what is done depends on the headers that are added for other origins. -/
theorem status_respond (server : Server I σ) (request : Http.Request) (before : Situation σ) :
    (server.respond request before).response.status =
      (server.route request before).response.status := by
  unfold respond
  simp only
  split <;> rfl

/-- Nor does the body, which only the answer to `HEAD` goes without. -/
theorem respond_of_posts (server : Server I σ) {request : Http.Request} {endpoint : Endpoint}
    (h : Posts request endpoint) (before : Situation σ) :
    let exchange := server.respond request before
    let routed := server.route request before
    exchange.response.status = routed.response.status ∧
      exchange.response.body = routed.response.body ∧
      exchange.after = routed.after ∧ exchange.trace = routed.trace := by
  intro exchange routed
  -- The request posts, so it is not one that only asks for the head.
  have hhead : (request.method == "HEAD") = false := by
    rw [h.1]
    decide
  refine ⟨server.status_respond request before, ?_, rfl, rfl⟩
  simp [exchange, routed, respond, hhead, Http.Response.withHeaders]

/-- What is posted to an endpoint for plans is for that endpoint to serve. -/
theorem route_of_posts (server : Server I σ) {request : Http.Request} {endpoint : Endpoint}
    (hendpoint : endpoint ≠ .health) (h : Posts request endpoint) (before : Situation σ) :
    server.route request before = server.serve endpoint request before := by
  obtain ⟨hmethod, hpath⟩ := h
  have hpreflight : Http.CrossOrigin.isPreflight request = false := by
    rw [Http.CrossOrigin.isPreflight, hmethod]
    decide
  have hmethods : endpoint.methods.contains request.method = true := by
    rw [hmethod]
    cases endpoint with
    | health => exact absurd rfl hendpoint
    | execute => decide
    | plan => decide
  simp only [route, hpreflight, hpath, Endpoint.ofPath?_path, hmethods, Bool.false_eq_true,
    if_false, if_true]

/-- Nothing comes of a request that is posted to neither of them. -/
theorem exists_route_eq_idle (server : Server I σ) {request : Http.Request}
    (hexecute : ¬ Posts request .execute) (hplan : ¬ Posts request .plan) (before : Situation σ) :
    ∃ response, server.route request before = idle response before := by
  unfold route
  simp only
  split
  · exact ⟨_, rfl⟩
  · cases hendpoint : Endpoint.ofPath? request.path with
    | none => exact ⟨_, rfl⟩
    | some endpoint =>
      have hpath := Endpoint.eq_path_of_ofPath? hendpoint
      by_cases hmethod : endpoint.methods.contains request.method
      · simp only [hmethod, if_true]
        -- The other endpoints know the method `POST` only.
        cases endpoint with
        | health => exact ⟨_, rfl⟩
        | execute => exact absurd ⟨by simpa [Endpoint.methods] using hmethod, hpath⟩ hexecute
        | plan => exact absurd ⟨by simpa [Endpoint.methods] using hmethod, hpath⟩ hplan
      · simp only [hmethod]
        exact ⟨_, rfl⟩

theorem serve_execute (server : Server I σ) {request : Http.Request} {body : Json}
    {instruction : String} (hbody : Carries request body)
    (hinstruction : HasInstruction body instruction) (before : Situation σ) :
    server.serve .execute request before =
      ofOutcome
        (server.agent.run server.host server.generate (Text.trim instruction) before) := by
  rw [serve]
  simp only [readInstruction_of_carries hbody hinstruction]

end Server

/-! ## The agent's part -/

/-- What is wrong with an answer is not the fault of the request. -/
theorem status_of_verdict {error : PlanError} (h : Plan.Verdict error) :
    (RequestError.plan error).status = 500 := by
  cases h <;> rfl

namespace Agent

/-- A plan that is run is reported with its log, or the time is up. -/
theorem runPlan_result_cases (agent : Agent I) (host : Host I σ) (plan : Plan)
    (before : Situation σ) :
    (∃ log, (execute agent.registry host (agent.limit.map (before.clock + ·)) plan before).log =
        some log ∧ (agent.runPlan host plan before).result = .ok ⟨plan, log⟩) ∨
      ∃ limit, (agent.runPlan host plan before).result = .error (.timedOut limit) := by
  simp only [runPlan, executeWithin]
  cases (execute agent.registry host (agent.limit.map (before.clock + ·)) plan before).log with
  | some log => exact .inl ⟨log, rfl, rfl⟩
  | none => exact .inr ⟨_, rfl⟩

/-- The prompt for an instruction that is more than blanks is put to the generator once, and the
plan in the answer is run. -/
theorem run_of_trim_ne (agent : Agent I) (host : Host I σ) (generate : Generator)
    {instruction : String} (h : Text.trim instruction ≠ "") (before : Situation σ) :
    agent.run host generate (Text.trim instruction) before =
      let prompt := agent.prompt.build (Text.trim instruction)
      match Plan.extract (generate prompt) with
      | .error error => .refused [prompt] error before
      | .ok plan => { agent.runPlan host plan before with prompts := [prompt] } := by
  -- What is not blank is not empty.
  have hfilled : (Text.trim instruction).isEmpty = false := by simpa using h
  cases hplan : Plan.extract (generate (agent.prompt.build (Text.trim instruction))) with
  | error error =>
    simp only [run, consult, Text.trim_trim, hfilled, Bool.false_eq_true, if_false, hplan]
  | ok plan =>
    simp only [run, consult, Text.trim_trim, hfilled, Bool.false_eq_true, if_false, hplan]

end Agent

end Deskhand
