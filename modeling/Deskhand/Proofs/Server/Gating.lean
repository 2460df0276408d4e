/-
  Deskhand.Proofs.Server.Gating

  What a request can set off.

  The generator is asked, and devices are touched, only for requests that were read to the end. So a
  request that is to blame for its failure has done nothing, and one that the server is to blame for
  was accepted: an answer without a plan and a plan that ran out of time are the server's failures.
  What was run is reported with two entries of the log for each command of the plan.
-/

import Deskhand.Proofs.Server.Requests

namespace Deskhand

open Deskhand.Execution

variable {I : Interface} {σ : Type}

/-! ## Reports -/

/-- The commands that the entries of a log name are those of the plan, each twice in a row. -/
theorem Execution.commands_of_log {registry : Registry I} {host : Host I σ} {deadline : Option Nat}
    {plan : Plan} {before : Situation σ} {log : Log}
    (h : (execute registry host deadline plan before).log = some log) :
    log.map LogEntry.command = plan.flatMap fun command => [command, command] := by
  induction plan generalizing before log with
  | nil =>
    obtain rfl : [] = log := Option.some.inj h
    rfl
  | cons command rest ih =>
    cases houtcome : (attempt registry host deadline command before).outcome with
    | none =>
      rw [execute_cons_of_cutOff houtcome] at h
      cases h
    | some outcome =>
      rw [execute_cons houtcome] at h
      obtain ⟨others, hothers, rfl⟩ := Option.map_eq_some_iff.1 h
      have hentry : (outcomeEntry command outcome).command = command := by
        cases outcome with
        | error error => rfl
        | ok message => rfl
      simp [hentry, ih hothers]

/-- Each member of a list that is written twice in a row stands at an even position and behind. -/
theorem getElem?_flatMap_pair {α : Type} (xs : List α) (i : Nat) :
    (xs.flatMap fun x => [x, x])[2 * i]? = xs[i]? ∧
      (xs.flatMap fun x => [x, x])[2 * i + 1]? = xs[i]? := by
  induction xs generalizing i with
  | nil => exact ⟨rfl, rfl⟩
  | cons x xs ih =>
    cases i with
    | zero => exact ⟨rfl, rfl⟩
    | succ i => exact ih i

/-- A body that reports a plan that was run: it says that all went well, and gives the plan and a
log in which the entries at `2 * i` and `2 * i + 1` name the command at `i`, and no other entry. -/
structure ReportsRun (body : Json) : Prop where
  success : body.get? "success" = some (.bool true)
  paired : ∃ plan logs, body.get? "plan" = some (.array plan) ∧
    body.get? "logs" = some (.array logs) ∧ logs.length = 2 * plan.length ∧
    ∀ i, logs[2 * i]?.bind (Json.get? "commandText") = plan[i]? ∧
      logs[2 * i + 1]?.bind (Json.get? "commandText") = plan[i]?

theorem commandText_toJson (entry : LogEntry) :
    entry.toJson.get? "commandText" = some (.string entry.command) := by
  simp [LogEntry.toJson, Json.get?, Keyed.get?]

/-- The command that an entry names in a body. -/
theorem commandText_of_commands {log : Log} {commands : List String}
    (h : log.map LogEntry.command = commands) (i : Nat) :
    (log.map LogEntry.toJson)[i]?.bind (Json.get? "commandText") = commands[i]?.map .string := by
  rw [← h, List.getElem?_map, List.getElem?_map]
  cases log[i]? with
  | none => rfl
  | some entry => exact commandText_toJson entry

theorem reportsRun_of_commands {report : PlanReport}
    (h : report.log.map LogEntry.command =
      report.plan.flatMap fun command => [command, command]) :
    ReportsRun (.object [("success", .bool true), ("plan", Plan.toJson report.plan),
      ("logs", report.log.toJson)]) where
  success := rfl
  paired := by
    refine ⟨report.plan.map .string, report.log.map LogEntry.toJson, rfl, rfl, ?_, fun i => ?_⟩
    -- Two entries for each command.
    · have hlength := congrArg List.length h
      simp only [List.length_map, List.length_flatMap, List.length_cons, List.length_nil,
        List.map_const', List.sum_replicate_nat] at hlength ⊢
      omega
    -- The command behind an entry is found at half its place.
    · obtain ⟨heven, hodd⟩ := getElem?_flatMap_pair report.plan i
      rw [commandText_of_commands h, commandText_of_commands h, heven, hodd, List.getElem?_map]
      exact ⟨rfl, rfl⟩

/-! ## Outcomes -/

namespace Server

/-- What comes of a plan that is run, whoever was asked for it: a report of the run, or the failure
that the time is up. -/
theorem ofOutcome_runPlan_cases (agent : Agent I) (host : Host I σ) (plan : Plan)
    (before : Situation σ) (prompts : List String) :
    let exchange : Exchange I σ := ofOutcome { agent.runPlan host plan before with prompts }
    exchange.prompts = prompts ∧
      ((exchange.response.status = 200 ∧
          ∃ body, exchange.response.body = some body ∧ ReportsRun body) ∨
        exchange.response.status = 500) := by
  intro exchange
  refine ⟨rfl, ?_⟩
  -- The plan comes to its end, or the time is up.
  rcases agent.runPlan_result_cases host plan before with ⟨log, hlog, hresult⟩ | ⟨limit, hresult⟩
  · refine .inl ?_
    have hresponse : exchange.response = success ⟨plan, log⟩ := by
      simp only [exchange, ofOutcome, hresult]
    rw [hresponse]
    exact ⟨rfl, _, rfl, reportsRun_of_commands (commands_of_log hlog)⟩
  · refine .inr ?_
    simp only [exchange, ofOutcome, hresult]
    rfl

/-- What comes of an instruction that was read: the generator is asked once, and then there is a
report of the run, or the server has failed. -/
theorem ofOutcome_run_cases (agent : Agent I) (host : Host I σ) (generate : Generator)
    {instruction : String} (h : Text.trim instruction ≠ "") (before : Situation σ) :
    let exchange : Exchange I σ :=
      ofOutcome (agent.run host generate (Text.trim instruction) before)
    exchange.prompts = [agent.prompt.build (Text.trim instruction)] ∧
      ((exchange.response.status = 200 ∧
          ∃ body, exchange.response.body = some body ∧ ReportsRun body) ∨
        exchange.response.status = 500) := by
  simp only [agent.run_of_trim_ne host generate h before]
  cases hplan : Plan.extract (generate (agent.prompt.build (Text.trim instruction))) with
  | error error => exact ⟨rfl, .inr (status_of_verdict (Plan.verdict_of_extract hplan))⟩
  | ok plan => exact ofOutcome_runPlan_cases agent host plan before _

/-- The generator is asked nothing but the prompt for the instruction. -/
theorem run_congr (agent : Agent I) (host : Host I σ) {generate other : Generator}
    {instruction : String} (h : Text.trim instruction ≠ "") (before : Situation σ)
    (hsame : other (agent.prompt.build (Text.trim instruction)) =
      generate (agent.prompt.build (Text.trim instruction))) :
    agent.run host other (Text.trim instruction) before =
      agent.run host generate (Text.trim instruction) before := by
  simp only [agent.run_of_trim_ne host _ h before, hsame]

/-! ## Every request -/

/-- What is done with a request. It is none that is posted to an endpoint for plans; or it is, and
holds no instruction or no plan; or an instruction is carried out; or a plan is run. -/
inductive Answers (server : Server I σ) (request : Http.Request) (before : Situation σ) :
    Exchange I σ → Prop
  | elsewhere (response : Http.Response) (hexecute : ¬ Posts request .execute)
      (hplan : ¬ Posts request .plan) : Answers server request before (idle response before)
  | withoutInstruction (text : String) (hposts : Posts request .execute)
      (hnone : ∀ body instruction, Carries request body → ¬ HasInstruction body instruction) :
      Answers server request before (idle (RequestError.badRequest text).response before)
  | withoutPlan (error : RequestError) (hposts : Posts request .plan)
      (hstatus : error.status = 400) : Answers server request before (idle error.response before)
  | instructed (body : Json) (instruction : String) (hposts : Posts request .execute)
      (hbody : Carries request body) (hinstruction : HasInstruction body instruction) :
      Answers server request before
        (ofOutcome (server.agent.run server.host server.generate (Text.trim instruction) before))
  | planned (plan : Plan) (hposts : Posts request .plan) :
      Answers server request before
        (ofOutcome { server.agent.runPlan server.host plan before with prompts := [] })

theorem not_posts_of_ne {request : Http.Request} {endpoint other : Endpoint}
    (h : Posts request endpoint) (hne : other ≠ endpoint) : ¬ Posts request other := by
  intro hother
  have hpath : Endpoint.ofPath? other.path = Endpoint.ofPath? endpoint.path :=
    congrArg Endpoint.ofPath? (hother.2.symm.trans h.2)
  rw [Endpoint.ofPath?_path, Endpoint.ofPath?_path] at hpath
  exact hne (Option.some.inj hpath)

theorem answers_serve_plan (server : Server I σ) {request : Http.Request}
    (h : Posts request .plan) (before : Situation σ) :
    Answers server request before (server.serve .plan request before) := by
  unfold serve
  simp only
  -- Up to the plan itself everything that can go wrong is the fault of the request.
  cases hread : readBody request with
  | error error =>
    obtain ⟨text, rfl⟩ := exists_badRequest_of_readBody hread
    exact .withoutPlan _ h rfl
  | ok body =>
    simp only [bind, Except.bind, planOf]
    cases body.get? "plan" with
    | none => exact .withoutPlan _ h rfl
    | some value =>
      simp only [Option.elim_some, Agent.runValue]
      cases hplan : Plan.ofJson value with
      | error error =>
        -- Only an empty plan is refused at this point.
        refine .withoutPlan (.plan error) h ?_
        unfold Plan.ofJson at hplan
        split at hplan
        · cases hplan
        · rw [← Except.error.inj hplan]
          rfl
      | ok plan => exact .planned plan h

/-- What is done with a request is one of these. -/
theorem answers_route (server : Server I σ) (request : Http.Request) (before : Situation σ) :
    Answers server request before (server.route request before) := by
  -- Posted to be carried out, with an instruction or without one.
  by_cases hexecute : Posts request .execute
  · rw [server.route_of_posts (by decide) hexecute]
    rcases readInstruction_cases request with
      ⟨body, instruction, hbody, hinstruction, -⟩ | ⟨hnone, text, hread⟩
    · rw [server.serve_execute hbody hinstruction]
      exact .instructed body instruction hexecute hbody hinstruction
    · rw [serve]
      simp only [hread]
      exact .withoutInstruction text hexecute hnone
  -- Posted as a plan.
  · by_cases hplan : Posts request .plan
    · rw [server.route_of_posts (by decide) hplan]
      exact answers_serve_plan server hplan before
    -- Anything else.
    · obtain ⟨response, hidle⟩ := server.exists_route_eq_idle hexecute hplan before
      rw [hidle]
      exact .elsewhere response hexecute hplan

namespace Answers

variable {server : Server I σ} {request : Http.Request} {before : Situation σ}
  {exchange : Exchange I σ}

/-- The generator is asked for what is posted to be carried out, unless the request is to blame. -/
theorem prompts (h : Answers server request before exchange) :
    exchange.prompts.length =
      if Posts request .execute ∧
        (exchange.response.status = 200 ∨ exchange.response.status = 500) then 1 else 0 := by
  cases h with
  | elsewhere response hexecute hplan =>
    rw [if_neg fun hasked => hexecute hasked.1]
    rfl
  | withoutInstruction text hposts hnone =>
    rw [if_neg]
    · rfl
    -- Neither success nor failure has the status of a request that is to blame.
    · rintro ⟨-, hstatus | hstatus⟩ <;> cases hstatus
  | withoutPlan error hposts hstatus =>
    rw [if_neg fun hasked => not_posts_of_ne hposts (by decide) hasked.1]
    rfl
  | instructed body instruction hposts hbody hinstruction =>
    obtain ⟨hprompts, hstatus⟩ :=
      ofOutcome_run_cases server.agent server.host server.generate hinstruction.trim_ne before
    rw [hprompts, if_pos ⟨hposts, hstatus.imp And.left id⟩]
    rfl
  | planned plan hposts =>
    rw [if_neg fun hasked => not_posts_of_ne hposts (by decide) hasked.1]
    rfl

/-- What is posted to be carried out is refused for want of an instruction and for nothing else. -/
theorem status_eq_badRequest_iff (h : Answers server request before exchange)
    (hposts : Posts request .execute) :
    exchange.response.status = 400 ↔
      ∀ body instruction, Carries request body → ¬ HasInstruction body instruction := by
  cases h with
  | elsewhere response hexecute hplan => exact absurd hposts hexecute
  | withoutInstruction text hposts hnone => exact iff_of_true rfl hnone
  | withoutPlan error hplan hstatus => exact absurd hposts (not_posts_of_ne hplan (by decide))
  | instructed body instruction hposts hbody hinstruction =>
    refine iff_of_false ?_ fun hnone => hnone body instruction hbody hinstruction
    obtain ⟨-, ⟨hstatus, -⟩ | hstatus⟩ :=
      ofOutcome_run_cases server.agent server.host server.generate hinstruction.trim_ne before
    · omega
    · omega
  | planned plan hplan => exact absurd hposts (not_posts_of_ne hplan (by decide))

theorem idle_of_status (h : Answers server request before exchange)
    (hlow : 400 ≤ exchange.response.status) (hhigh : exchange.response.status < 500) :
    exchange.after = before ∧ exchange.trace = [] := by
  cases h with
  | elsewhere response hexecute hplan => exact ⟨rfl, rfl⟩
  | withoutInstruction text hposts hnone => exact ⟨rfl, rfl⟩
  | withoutPlan error hposts hstatus => exact ⟨rfl, rfl⟩
  | instructed body instruction hposts hbody hinstruction =>
    obtain ⟨-, ⟨hstatus, -⟩ | hstatus⟩ :=
      ofOutcome_run_cases server.agent server.host server.generate hinstruction.trim_ne before
    · omega
    · omega
  | planned plan hposts =>
    obtain ⟨-, ⟨hstatus, -⟩ | hstatus⟩ :=
      ofOutcome_runPlan_cases server.agent server.host plan before []
    · omega
    · omega

/-- A success of an endpoint for plans reports a run. -/
theorem reportsRun (h : Answers server request before exchange)
    (hposts : Posts request .execute ∨ Posts request .plan)
    (hsuccess : exchange.response.status = 200) :
    ∃ body, exchange.response.body = some body ∧ ReportsRun body := by
  cases h with
  | elsewhere response hexecute hplan => exact absurd hposts (not_or.2 ⟨hexecute, hplan⟩)
  | withoutInstruction text hposts hnone => cases hsuccess
  | withoutPlan error hposts hstatus =>
    rw [show error.status = 200 from hsuccess] at hstatus
    cases hstatus
  | instructed body instruction hposts hbody hinstruction =>
    obtain ⟨-, ⟨-, hreport⟩ | hfailed⟩ :=
      ofOutcome_run_cases server.agent server.host server.generate hinstruction.trim_ne before
    · exact hreport
    · omega
  | planned plan hposts =>
    obtain ⟨-, ⟨-, hreport⟩ | hfailed⟩ :=
      ofOutcome_runPlan_cases server.agent server.host plan before []
    · exact hreport
    · omega

end Answers

/-- A server whose generator gives the same answers to the prompts that are put to it gives the same
answers to requests. -/
theorem route_congr (server : Server I σ) (request : Http.Request) (before : Situation σ)
    {other : Generator}
    (h : ∀ prompt ∈ (server.route request before).prompts,
      other prompt = server.generate prompt) :
    ({ server with generate := other } : Server I σ).route request before =
      server.route request before := by
  by_cases hexecute : Posts request .execute
  -- The one prompt that is put is the one on which the generators agree.
  · rw [server.route_of_posts (by decide) hexecute] at h ⊢
    rw [route_of_posts _ (by decide) hexecute]
    rcases readInstruction_cases request with
      ⟨body, instruction, hbody, hinstruction, -⟩ | ⟨hnone, text, hread⟩
    · rw [server.serve_execute hbody hinstruction] at h ⊢
      rw [serve_execute _ hbody hinstruction]
      obtain ⟨hprompts, -⟩ :=
        ofOutcome_run_cases server.agent server.host server.generate hinstruction.trim_ne before
      rw [hprompts] at h
      rw [run_congr server.agent server.host hinstruction.trim_ne before (h _ List.mem_cons_self)]
    · rw [serve, serve]
      simp only [hread]
  · -- Nobody else asks the generator.
    unfold route
    simp only
    split
    · rfl
    · cases hendpoint : Endpoint.ofPath? request.path with
      | none => rfl
      | some endpoint =>
        have hpath := Endpoint.eq_path_of_ofPath? hendpoint
        cases endpoint with
        | health => rfl
        | execute =>
          have hmethod : Endpoint.execute.methods.contains request.method = false := by
            rw [← Bool.not_eq_true]
            intro hmethod
            exact hexecute ⟨by simpa [Endpoint.methods] using hmethod, hpath⟩
          simp only [hmethod, Bool.false_eq_true, if_false]
        | plan => rfl

/-- **Requests are gated.** Whatever the server has done before, and whatever its generator answers
and its devices do: the generator is asked once for what is posted to be carried out, unless the
request is to blame, and for nothing else; what is posted to be carried out is refused for want of a
JSON body with an instruction and for nothing else; a request that is to blame leaves everything as
it was; and a plan that was run to its end is reported with a log of two entries for each
command. -/
theorem respond_gated (server : Server I σ) (request : Http.Request) (before : Situation σ) :
    let exchange := server.respond request before
    let status := exchange.response.status
    (exchange.prompts.length =
        if Posts request .execute ∧ (status = 200 ∨ status = 500) then 1 else 0) ∧
      (∀ other : Generator, (∀ prompt ∈ exchange.prompts, other prompt = server.generate prompt) →
        ({ server with generate := other } : Server I σ).respond request before = exchange) ∧
      (Posts request .execute →
        (status = 400 ↔ Rejected request ∨
          ∃ body, Carries request body ∧ ∀ instruction, ¬ HasInstruction body instruction)) ∧
      (400 ≤ status ∧ status < 500 → exchange.after = before ∧ exchange.trace = []) ∧
      ((Posts request .execute ∨ Posts request .plan) ∧ status = 200 →
        ∃ body, exchange.response.body = some body ∧ ReportsRun body) := by
  intro exchange status
  have hanswers := server.answers_route request before
  have hstatus : status = (server.route request before).response.status :=
    server.status_respond request before
  rw [hstatus]
  refine ⟨hanswers.prompts, ?_, ?_, ?_, ?_⟩
  · intro other hother
    have hroute := server.route_congr request before hother
    unfold exchange respond
    rw [hroute]
  · intro hposts
    rw [hanswers.status_eq_badRequest_iff hposts]
    constructor
    · intro hnone
      -- The body is no JSON at all, or JSON without an instruction.
      by_cases hcarries : ∃ body, Carries request body
      · obtain ⟨body, hbody⟩ := hcarries
        exact .inr ⟨body, hbody, fun instruction => hnone body instruction hbody⟩
      · exact .inl (not_exists.1 hcarries)
    · rintro (hrejected | ⟨body, hbody, hnone⟩) other instruction hother
      · exact absurd hother (hrejected other)
      · rw [hother.unique hbody]
        exact hnone instruction
  · rintro ⟨hlow, hhigh⟩
    exact hanswers.idle_of_status hlow hhigh
  · rintro ⟨hposts, hsuccess⟩
    obtain ⟨body, hbody, hreport⟩ := hanswers.reportsRun hposts hsuccess
    -- A posted request has its response without change of the body.
    refine ⟨body, ?_, hreport⟩
    rcases hposts with hexecute | hplan
    · exact (server.respond_of_posts hexecute before).2.1.trans hbody
    · exact (server.respond_of_posts hplan before).2.1.trans hbody

end Server

end Deskhand
