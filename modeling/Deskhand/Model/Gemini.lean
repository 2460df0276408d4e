/-
  Deskhand.Model.Gemini

  Asking Gemini.

  One prompt becomes one request to the service, and its answer becomes a text or an error. Who
  sends the request is left open: a function from requests to responses stands for the network.
-/

import Deskhand.Http.Status
import Deskhand.Http.Url
import Deskhand.Json.Outline
import Deskhand.Model.Settings

namespace Deskhand.Model.Gemini

open Deskhand.Http
open Deskhand.Json

/-- A request: what is asked for, and the JSON text that goes with it. -/
structure Request where
  url : Url
  body : String

structure Response where
  status : Nat
  body : List UInt8
  deriving DecidableEq, Repr

/-- The network: a response to a request, or nothing if the connection fails. -/
abbrev Network := Request → Option Response

/-- A client, whose settings were checked. -/
structure Client where
  settings : Settings

/-- A client for settings that can work. -/
def Client.create (settings : Settings) : Except Error Client := do
  settings.validate
  return ⟨settings⟩

namespace Client

def describe (client : Client) : String := "gemini:" ++ client.settings.model

def endpoint (client : Client) : String :=
  client.settings.baseUrl ++ "/models/" ++ client.settings.model ++ ":generateContent"

def body (client : Client) (prompt : String) : String :=
  let tokens :=
    client.settings.maxOutputTokens.elim "" fun n => ",\"maxOutputTokens\":" ++ toString n
  "\x7b\"contents\":[\x7b\"role\":\"user\",\"parts\":[\x7b\"text\":" ++ Json.quote prompt ++
    "\x7d]\x7d],\"generationConfig\":\x7b\"temperature\":" ++
    client.settings.temperature.spell .json32 ++ tokens ++ "\x7d\x7d"

/-- The request for a prompt; nothing if the address is no URL. -/
def request? (client : Client) (prompt : String) : Option Request :=
  (Url.parse? client.endpoint).map fun url =>
    ⟨url.withPair "key" client.settings.apiKey, client.body prompt⟩

end Client

/-! ## Answers -/

/-- The text of a part of an answer. -/
def partText? (o : Outline) : Option String := do
  match ← o.fields? ["text"] with
  | [text] => Outline.orDefault Outline.text? "" text
  | _ => none

/-- The text of a message: that of its parts. -/
def messageText? (o : Outline) : Option String := do
  match ← o.fields? ["role", "parts"] with
  | [role, parts] =>
    let _ ← Outline.orDefault (Outline.nullable? Outline.text?) none role
    return String.join (← Outline.orDefault (Outline.list? partText?) [] parts)
  | _ => none

/-- The text of a candidate; one without content has none. Written as an array, it must be
complete. -/
def candidateText? (o : Outline) : Option String := do
  match ← o.fields? ["content", "finishReason"] with
  | [content, reason] =>
    if o.isArray && reason.isNone then none
    else
      let _ ← Outline.orDefault (Outline.nullable? Outline.text?) none reason
      return (← Outline.orDefault (Outline.nullable? messageText?) none content).getD ""
  | _ => none

def candidates? (body : List UInt8) : Option (List String) := do
  match ← (← Outline.ofBytes body).fields? ["candidates"] with
  | [candidates] => Outline.orDefault (Outline.list? candidateText?) [] candidates
  | _ => none

/-- The text of a response with a status of success: that of the first candidate. -/
def readText (body : List UInt8) : Except Error String :=
  match candidates? body with
  | none => .error (.invalidResponse "error decoding response body")
  | some [] => .error (.invalidResponse "response has no candidates")
  | some (text :: _) => .ok text

/-- The error of a response with any other status. -/
def refusal (status : Nat) (text : String) : Error :=
  if status = 401 ∨ status = 403 then .authentication text
  else if status = 429 then .rateLimit text
  else .provider ("Gemini API error " ++ statusText status ++ ": " ++ text)

/-- What a response says. -/
def read (response : Response) : Except Error String :=
  let body := if isBodiless response.status then [] else response.body
  if isSuccess response.status then readText body
  else .error (refusal response.status (Text.Utf8.lenient body))

namespace Client

/-- The requests that one prompt takes: one, or none where it cannot be sent. -/
def requests (client : Client) (prompt : String) : List Request :=
  if client.settings.hasKey then (client.request? prompt).toList else []

/-- The answer to a prompt. -/
def tryGenerate (client : Client) (network : Network) (prompt : String) : Except Error String :=
  if !client.settings.hasKey then .error (.missingKey "Gemini API key is not configured")
  else
    match (client.request? prompt).bind network with
    | none => .error .connection
    | some response => read response

def generate (client : Client) (network : Network) (prompt : String) : String :=
  match client.tryGenerate network prompt with
  | .ok text => text
  | .error _ => ""

end Client

end Deskhand.Model.Gemini
