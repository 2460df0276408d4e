/-
  Deskhand.Settings.Agent

  Settings of the agent.

  Where the agent listens, which model it asks, how long it waits, and whether it acts at all. The
  settings are overlaid by variables of the environment, which win where they are set and not blank.
-/

import Deskhand.Desk.Timing
import Deskhand.Model.Settings
import Deskhand.Settings.Address

namespace Deskhand

open Deskhand.Desk
open Deskhand.Number
open Deskhand.Text

/-- Where the server listens, and the origins of the pages that may call it. -/
structure ServerSettings where
  host : String
  port : Nat
  allowedOrigins : List String
  deriving DecidableEq

/-- The usual place to listen at. -/
def ServerSettings.standard : ServerSettings := ⟨"127.0.0.1", 5005, ["http://localhost:3000"]⟩

structure AgentSettings where
  server : ServerSettings
  model : Model.Settings
  timing : Timing
  cacheCapacity : Option Nat
  planTimeoutSecs : Option Nat
  dryRun : Bool
  folder : Option String
  deriving DecidableEq

namespace AgentSettings

/-- The settings where nothing is said. -/
def standard : AgentSettings :=
  { server := .standard
    model := .standard
    timing := .standard
    cacheCapacity := none
    planTimeoutSecs := none
    dryRun := false
    folder := none }

/-- What the keys of the agent's own variables start with. -/
def keyStart : String := "LOCAL_AGENT_"

/-! ## Checking -/

/-- Whether an origin names a scheme that pages are loaded by. -/
def isOrigin (origin : String) : Bool :=
  "http://".toList.isPrefixOf origin.toList || "https://".toList.isPrefixOf origin.toList

/-- Refuses settings that cannot work. -/
def validate (s : AgentSettings) : Except SettingsError Unit :=
  if s.server.port = 0 then .error (.invalid "server.port must be non-zero")
  else
    match s.server.allowedOrigins.find? fun origin => !isOrigin origin with
    | some origin =>
      .error (.invalid
        ("allowed origin " ++ quoted origin ++ " must start with http:// or https://"))
    | none =>
      if s.planTimeoutSecs = some 0 then
        .error (.invalid "plan_timeout_secs must be greater than zero")
      else s.model.validate.mapError fun e => .invalid e.message

/-! ## The environment -/

/-- The settings with the variables of the environment laid over them. The keys of all but the
model's variables start with `start`. -/
def overlay (s : AgentSettings) (env : Environment) (start : String) :
    Except SettingsError AgentSettings := do
  let key := Environment.key start
  let host ← env.text (key "host")
  let port ← env.parsed (key "port") (Environment.natural 0xFFFF)
  let origins ← env.list (key "allowed_origins")
  let capacity ← env.parsed (key "parse_cache_capacity") (Environment.natural maxU64)
  let timeout ← env.parsed (key "plan_timeout_secs") (Environment.natural maxU64)
  let dryRun ← env.flag (key "dry_run")
  let apiKey ← env.text "GEMINI_API_KEY"
  let model ← env.text "GEMINI_MODEL"
  let baseUrl ← env.text "GEMINI_BASE_URL"
  return { s with
    server :=
      { host := host.getD s.server.host
        port := port.getD s.server.port
        allowedOrigins := origins.getD s.server.allowedOrigins }
    model := { s.model with
      apiKey := apiKey.getD s.model.apiKey
      model := model.getD s.model.model
      baseUrl := (baseUrl.map Model.Settings.withoutSlashes).getD s.model.baseUrl }
    cacheCapacity := capacity.or s.cacheCapacity
    planTimeoutSecs := timeout.or s.planTimeoutSecs
    dryRun := dryRun.getD s.dryRun }

/-- The settings with the environment laid over them, checked. -/
def withEnvironment (s : AgentSettings) (env : Environment) (start : String) :
    Except SettingsError AgentSettings := do
  let s ← s.overlay env start
  s.validate
  return s

/-- The usual settings with the environment laid over them, checked. -/
def load (env : Environment) (start : String) : Except SettingsError AgentSettings :=
  standard.withEnvironment env start

/-! ## What follows from the settings -/

def address (s : AgentSettings) : Except SettingsError SocketAddress :=
  let text := s.server.host ++ ":" ++ toString s.server.port
  match SocketAddress.parse? text with
  | some address => .ok address
  | none =>
    .error (.invalid ("invalid listen address " ++ text ++ ": invalid socket address syntax"))

def planTimeout (s : AgentSettings) : Option Duration := s.planTimeoutSecs.map Duration.ofSeconds

end AgentSettings

end Deskhand
