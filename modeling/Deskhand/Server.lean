/-
  Deskhand.Server

  The server.

  Three endpoints: one says that the server is alive, one runs an instruction and one runs a plan.
  What cannot be read is refused before anything is done. An error of the plan as a whole is the
  server's, save where the plan or the instruction that was sent makes no sense.
-/

import Deskhand.Agent.Basic
import Deskhand.Http.CrossOrigin
import Deskhand.Http.MediaType
import Deskhand.Json.Reader
import Deskhand.Text.Utf8

namespace Deskhand

open Deskhand.Execution
open Deskhand.Http

/-- What the server can be asked for. -/
inductive Endpoint where
  | health
  | execute
  | plan
  deriving DecidableEq, Repr

namespace Endpoint

def path : Endpoint → String
  | .health => "/health"
  | .execute => "/execute"
  | .plan => "/plan"

def ofPath? (path : String) : Option Endpoint :=
  [health, execute, plan].find? fun endpoint => endpoint.path == path

/-- The methods that an endpoint knows. -/
def methods : Endpoint → List String
  | .health => ["GET", "HEAD"]
  | .execute | .plan => ["POST"]

/-- The header that names these methods. -/
def allowHeader (endpoint : Endpoint) : String × String :=
  ("allow", ",".intercalate endpoint.methods)

end Endpoint

/-- Why a request was not answered with success. -/
inductive RequestError where
  | badRequest (text : String)
  | plan (error : PlanError)
  deriving DecidableEq, Repr

namespace RequestError

/-- The status of the answer: whether the request is to blame or the server. -/
def status : RequestError → Nat
  | .badRequest _ | .plan (.invalidInstruction _) | .plan (.invalidPlan _) => 400
  | .plan _ => 500

/-- The identifier of an error for programs. -/
def code : RequestError → String
  | .badRequest _ => "BAD_REQUEST"
  | .plan error => error.code

def message : RequestError → String
  | .badRequest text => text
  | .plan error => error.message

def response (error : RequestError) : Response :=
  .json error.status (.object [("success", .bool false), ("error", .string error.message),
    ("code", .string error.code)])

end RequestError

/-! ## Reading a request -/

def maxBodyBytes : Nat := 10485760

/-- Whether a request says that its body is JSON. -/
def saysJson (request : Request) : Bool :=
  ((request.header? "content-type").bind MediaType.parse?).any MediaType.isJson

/-- The JSON value at the start of a body. What follows it does not matter. Of a body that is not
JSON the response also says what the reader of the body objects to; that part of the wording is left
out here. -/
def readBody (request : Request) : Except RequestError Json :=
  if !saysJson request then
    .error (.badRequest "Expected request with `Content-Type: application/json`")
  else if maxBodyBytes < request.body.length then
    .error (.badRequest "Failed to buffer the request body: length limit exceeded")
  else
    match Json.readLeading (Text.Utf8.leading request.body) with
    | .ok (value, _) => .ok value
    | .error _ => .error (.badRequest "Failed to parse the request body as JSON")

/-- The instruction in a body. -/
def instructionOf (body : Json) : Except RequestError String :=
  let instruction := Text.trim (((body.get? "instruction").bind Json.asString?).getD "")
  if instruction.isEmpty then .error (.badRequest "Invalid or missing instruction.")
  else .ok instruction

/-- The plan in a body, whatever it is. -/
def planOf (body : Json) : Except RequestError Json :=
  (body.get? "plan").elim (.error (.badRequest "Missing plan.")) .ok

/-! ## Answering -/

/-- An agent with all that it needs, and the origins of the pages that may call it. -/
structure Server (I : Interface) (σ : Type) where
  agent : Agent I
  host : Host I σ
  generate : Generator
  origins : List String

/-- What came of a request: the response, the prompts that were answered, the situation after it,
and what happened meanwhile. -/
structure Exchange (I : Interface) (σ : Type) where
  response : Response
  prompts : List String
  after : Situation σ
  trace : List (Occurrence I)

namespace Server

variable {I : Interface} {σ : Type}

/-- An exchange in which nothing happened. -/
def idle (response : Response) (before : Situation σ) : Exchange I σ := ⟨response, [], before, []⟩

def success (report : PlanReport) : Response :=
  .json 200 (.object [("success", .bool true), ("plan", Plan.toJson report.plan),
    ("logs", report.log.toJson)])

/-- The exchange that an outcome amounts to. -/
def ofOutcome (outcome : Agent.Outcome I σ) : Exchange I σ :=
  { response :=
      match outcome.result with
      | .ok report => success report
      | .error error => (RequestError.plan error).response
    prompts := outcome.prompts
    after := outcome.after
    trace := outcome.trace }

/-- Does what an endpoint is there for. -/
def serve (server : Server I σ) (endpoint : Endpoint) (request : Request) (before : Situation σ) :
    Exchange I σ :=
  match endpoint with
  | .health => idle (.json 200 (.object [("success", .bool true)])) before
  | .execute =>
    match readBody request >>= instructionOf with
    | .error error => idle error.response before
    | .ok instruction => ofOutcome (server.agent.run server.host server.generate instruction before)
  | .plan =>
    match readBody request >>= planOf with
    | .error error => idle error.response before
    | .ok plan => ofOutcome (server.agent.runValue server.host plan before)

/-- The exchange before the headers for other origins are added: the path is looked at first, then
the method. -/
def route (server : Server I σ) (request : Request) (before : Situation σ) : Exchange I σ :=
  let endpoint := Endpoint.ofPath? request.path
  let allow := endpoint.toList.map Endpoint.allowHeader
  -- A preflight is answered for every path, also for one that no endpoint has.
  if CrossOrigin.isPreflight request then idle (CrossOrigin.preflight.withHeaders allow) before
  else
    match endpoint with
    | none => idle (.empty 404 []) before
    | some endpoint =>
      if endpoint.methods.contains request.method then server.serve endpoint request before
      else idle (.empty 405 allow) before

/-- Answers a request. The answer to `HEAD` has no body. -/
def respond (server : Server I σ) (request : Request) (before : Situation σ) : Exchange I σ :=
  let exchange := server.route request before
  let response := exchange.response.withHeaders (CrossOrigin.commonHeaders server.origins request)
  { exchange with
    response := if request.method == "HEAD" then response.withoutBody else response }

end Server

end Deskhand
