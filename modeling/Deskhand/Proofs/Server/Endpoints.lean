/-
  Deskhand.Proofs.Server.Endpoints

  The two endpoints for plans agree.

  A plan takes one of two ways to the agent: out of the answer of a generator, or as JSON in the
  body of a request. The plan that is found in an answer is a list of texts, and a list of texts
  written as JSON and sent as bytes arrives as it was. So both ways lead to the same run of the same
  plan.
-/

import Deskhand.Proofs.Execution.Deadline
import Deskhand.Proofs.Plan.Compact
import Deskhand.Proofs.Server.Requests
import Deskhand.Proofs.Text.Utf8

namespace Deskhand

open Deskhand.Execution
open Deskhand.Json (Plain compactChars maxDepth)
open Deskhand.Text (Utf8.encodeChars Utf8.leading_encodeChars)

variable {I : Interface} {σ : Type}

/-- The body of a request that a plan be run. -/
def Plan.body (plan : Plan) : Json := .object [("plan", plan.toJson)]

/-- A value that is sent as the bytes of its compact text arrives. -/
theorem carries_of_compact {request : Http.Request} {value : Json} (hplain : Plain maxDepth value)
    (hjson : saysJson request = true)
    (hbytes : request.body = Utf8.encodeChars (compactChars value))
    (hshort : request.body.length ≤ maxBodyBytes) : Carries request value := by
  refine ⟨hjson, hshort, [], ?_⟩
  rw [hbytes, Utf8.leading_encodeChars]
  exact hplain.readLeading_compactChars

theorem Plan.plain_body (plan : Plan) : Plain maxDepth plan.body := by
  have hsorted : [("plan", plan.toJson)].Pairwise fun first second => first.1 < second.1 :=
    List.pairwise_singleton _ _
  refine .object hsorted fun member hmember => ?_
  rw [List.mem_singleton.1 hmember]
  exact plain_toJson plan

namespace Server

/-- A plan that arrives is run. -/
theorem serve_plan (server : Server I σ) {request : Http.Request} {plan : Plan}
    (h : Carries request plan.body) (before : Situation σ) :
    server.serve .plan request before =
      ofOutcome (server.agent.runPlan server.host plan before) := by
  have hplan : planOf plan.body = .ok plan.toJson := rfl
  have hread : readBody request >>= planOf = .ok plan.toJson := by
    simp only [readBody_eq_ok_iff.2 h, bind, Except.bind]
    exact hplan
  rw [serve]
  simp only [hread, Agent.runValue, Plan.ofJson_toJson]

/-- **The two endpoints agree.** Whatever the generator answers to an instruction that is posted to
be carried out, and whatever the server has done before: if a plan is found in the answer, then the
compact text of the plan, if it is short enough, is taken for that plan, and posting the plan to be
run, in this way or any other, has the same status and body, leaves the same situation and does the
same on the way, call by call; if none is found, the server says what is wrong with the answer, and
nothing has happened. -/
theorem respond_execute_eq_respond_plan (server : Server I σ) {asking : Http.Request} {body : Json}
    {instruction : String} (hasking : Posts asking .execute) (hbody : Carries asking body)
    (hinstruction : HasInstruction body instruction) (before : Situation σ) :
    let answer := server.generate (server.agent.prompt.build (Text.trim instruction))
    let asked := server.respond asking before
    (∀ plan, Plan.extract answer = .ok plan →
      ∀ sending : Http.Request,
        (saysJson sending = true → sending.body = Utf8.encodeChars (compactChars plan.body) →
          sending.body.length ≤ maxBodyBytes → Carries sending plan.body) ∧
        (Posts sending .plan → Carries sending plan.body →
          let sent := server.respond sending before
          asked.response.status = sent.response.status ∧
            asked.response.body = sent.response.body ∧
            asked.after = sent.after ∧ asked.trace = sent.trace)) ∧
      ∀ error, Plan.extract answer = .error error →
        asked.response.status = 500 ∧
          asked.response.body = some (.object [("success", .bool false),
            ("error", .string error.message), ("code", .string error.code)]) ∧
          asked.after = before ∧ asked.trace = [] := by
  intro answer asked
  have hroute : server.route asking before =
      ofOutcome (server.agent.run server.host server.generate (Text.trim instruction) before) := by
    rw [server.route_of_posts (by decide) hasking, server.serve_execute hbody hinstruction]
  -- Asking comes down to what the agent does with the answer of the generator.
  rw [server.agent.run_of_trim_ne server.host server.generate hinstruction.trim_ne before] at hroute
  obtain ⟨hstatus, hanswer, hafter, htrace⟩ := server.respond_of_posts hasking before
  constructor
  · intro plan hplan sending
    refine ⟨carries_of_compact plan.plain_body, fun hsending hcarries => ?_⟩
    have hsent : server.route sending before =
        ofOutcome (server.agent.runPlan server.host plan before) := by
      rw [server.route_of_posts (by decide) hsending, server.serve_plan hcarries]
    simp only [show Plan.extract (server.generate _) = .ok plan from hplan] at hroute
    obtain ⟨hsentStatus, hsentAnswer, hsentAfter, hsentTrace⟩ :=
      server.respond_of_posts hsending before
    simp only [asked, hstatus, hanswer, hafter, htrace, hsentStatus, hsentAnswer, hsentAfter,
      hsentTrace, hroute, hsent]
    -- The prompt apart, the same outcome has been reached.
    exact ⟨rfl, rfl, rfl, rfl⟩
  · intro error herror
    simp only [show Plan.extract (server.generate _) = .error error from herror] at hroute
    simp only [asked, hstatus, hanswer, hafter, htrace, hroute]
    exact ⟨status_of_verdict (Plan.verdict_of_extract herror), rfl, rfl, rfl⟩

/-- A request with a JSON body that posts to an endpoint. -/
def posting (endpoint : Endpoint) (body : Json) : Http.Request :=
  ⟨"POST", endpoint.path, [("content-type", "application/json")],
    Utf8.encodeChars (compactChars body)⟩

/-- A plan with an entry that is no text, found behind a remark. Its second nap is cut off whichever
way the plan has come. -/
theorem respond_execute_eq_respond_plan_napping :
    let host : Host ⟨Unit, fun _ => Unit⟩ Unit := ⟨fun _ state => (.ok (), state)⟩
    let server : Server ⟨Unit, fun _ => Unit⟩ Unit :=
      ⟨Agent.napping.within (some 7), host, fun _ => "Gladly: [\"nap()\", 5, \"nap()\"]", []⟩
    let asking := posting .execute (.object [("instruction", .string " twice ")])
    let sending := posting .plan (Plan.body ["nap()", "5", "nap()"])
    let before : Situation Unit := ⟨.empty none, (), 100⟩
    let asked := server.respond asking before
    let sent := server.respond sending before
    asked.response.status = 500 ∧ asked.after.clock = 107 ∧
      asked.response.status = sent.response.status ∧ asked.response.body = sent.response.body ∧
      asked.after = sent.after ∧ asked.trace = sent.trace := by
  intro host server asking sending before asked sent
  have hinstruction : HasInstruction (.object [("instruction", .string " twice ")]) " twice " :=
    ⟨_, rfl, rfl, by decide⟩
  have hplain : Plain maxDepth (.object [("instruction", .string " twice ")]) :=
    .object (List.pairwise_singleton _ _) fun member hmember => by
      rw [List.mem_singleton.1 hmember]
      exact .string _
  have hcarries : Carries asking (.object [("instruction", .string " twice ")]) :=
    carries_of_compact hplain (by decide +kernel) rfl (by decide +kernel)
  have hasking : Posts asking .execute := ⟨rfl, by decide +kernel⟩
  have hsending : Posts sending .plan := ⟨rfl, by decide +kernel⟩
  -- The errors of extraction are not compared, so the plan is looked at as an option.
  have hextract : Plan.extract "Gladly: [\"nap()\", 5, \"nap()\"]" =
      .ok ["nap()", "5", "nap()"] := by
    have hfound : (Plan.extract "Gladly: [\"nap()\", 5, \"nap()\"]").toOption =
        some ["nap()", "5", "nap()"] := by
      decide +kernel
    cases hresult : Plan.extract "Gladly: [\"nap()\", 5, \"nap()\"]" with
    | error error =>
      rw [hresult] at hfound
      cases hfound
    | ok plan =>
      rw [hresult] at hfound
      rw [Option.some.inj hfound]
  obtain ⟨hagree, -⟩ := respond_execute_eq_respond_plan server hasking hcarries hinstruction before
  obtain ⟨harrives, hsame⟩ := hagree _ hextract sending
  have hcarriesPlan := harrives (by decide +kernel) rfl (by decide +kernel)
  exact ⟨by decide +kernel, by decide +kernel, hsame hsending hcarriesPlan⟩

end Server

end Deskhand
