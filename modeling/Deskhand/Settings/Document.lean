/-
  Deskhand.Settings.Document

  Settings in documents.

  The settings of the agent as a YAML document, and those of the model alone as a JSON document.
  Whatever a document does not say has its usual value. The reader that turns a text into a YAML
  document is a parameter.
-/

import Deskhand.Files.Tree
import Deskhand.Json.Outline
import Deskhand.Settings.Agent
import Deskhand.Text.Utf8
import Deskhand.Yaml.Reader
import Deskhand.Yaml.Shape

namespace Deskhand

open Deskhand.Desk
open Deskhand.Files
open Deskhand.Number
open Deskhand.Text

/-! ## YAML -/

def ServerSettings.ofYaml? (y : Yaml) : Option ServerSettings := do
  let usual := ServerSettings.standard
  match ← y.fields? ["host", "port", "allowed_origins"] with
  | [host, port, origins] =>
    return { host := ← Yaml.orDefault Yaml.text? usual.host host
             port := ← Yaml.orDefault (Yaml.natural? 0xFFFF) usual.port port
             allowedOrigins :=
               ← Yaml.orDefault (Yaml.list? Yaml.text?) usual.allowedOrigins origins }
  | _ => none

/-- The settings of the model. -/
def Model.Settings.ofYaml? (y : Yaml) : Option Model.Settings := do
  let usual := Model.Settings.standard
  match ← y.fields?
      ["api_key", "base_url", "model", "timeout_secs", "temperature", "max_output_tokens"] with
  | [key, url, model, timeout, temperature, tokens] =>
    return { apiKey := ← Yaml.orDefault Yaml.text? usual.apiKey key
             baseUrl := ← Yaml.orDefault Yaml.text? usual.baseUrl url
             model := ← Yaml.orDefault Yaml.text? usual.model model
             timeoutSecs := ← Yaml.orDefault (Yaml.natural? maxU64) usual.timeoutSecs timeout
             temperature :=
               ← Yaml.orDefault (fun y => y.double?.map (·.convert binary32)) usual.temperature
                 temperature
             maxOutputTokens :=
               ← Yaml.orDefault (Yaml.nullable? (Yaml.natural? maxU64)) usual.maxOutputTokens
                 tokens }
  | _ => none

def Desk.Timing.ofYaml? (y : Yaml) : Option Timing := do
  let usual := Timing.standard
  let ms (default : Nat) : Option Yaml → Option Nat := Yaml.orDefault (Yaml.natural? maxU64) default
  match ← y.fields?
      ["key_delay_ms", "type_delay_ms", "move_settle_ms", "click_settle_ms", "scroll_settle_ms",
        "start_menu_delay_ms", "launch_wait_ms", "url_wait_ms", "focus_wait_ms"] with
  | [key, type, move, click, scroll, menu, launch, url, focus] =>
    return { keyDelay := ← ms usual.keyDelay key
             typeDelay := ← ms usual.typeDelay type
             moveSettle := ← ms usual.moveSettle move
             clickSettle := ← ms usual.clickSettle click
             scrollSettle := ← ms usual.scrollSettle scroll
             startMenuDelay := ← ms usual.startMenuDelay menu
             launchWait := ← ms usual.launchWait launch
             urlWait := ← ms usual.urlWait url
             focusWait := ← ms usual.focusWait focus }
  | _ => none

namespace AgentSettings

def ofYaml? (y : Yaml) : Option AgentSettings := do
  let usual := AgentSettings.standard
  match ← y.fields?
      ["server", "llm", "timing", "parse_cache_capacity", "plan_timeout_secs", "dry_run",
        "working_dir"] with
  | [server, model, timing, capacity, timeout, dryRun, folder] =>
    return { server := ← Yaml.orDefault ServerSettings.ofYaml? usual.server server
             model := ← Yaml.orDefault Model.Settings.ofYaml? usual.model model
             timing := ← Yaml.orDefault Timing.ofYaml? usual.timing timing
             cacheCapacity :=
               ← Yaml.orDefault (Yaml.nullable? (Yaml.natural? maxU64)) usual.cacheCapacity capacity
             planTimeoutSecs :=
               ← Yaml.orDefault (Yaml.nullable? (Yaml.natural? maxU64)) usual.planTimeoutSecs
                 timeout
             dryRun := ← Yaml.orDefault Yaml.bool? usual.dryRun dryRun
             folder := ← Yaml.orDefault (Yaml.nullable? Yaml.text?) usual.folder folder }
  | _ => none

/-- The error for a text that is no YAML, or holds something other than settings. -/
def unreadable (text : String) (reader : Yaml.Reader) : SettingsError :=
  .invalid ("Failed to parse YAML config" ++ (reader.reason? text).elim "" fun why => ": " ++ why)

def ofText (text : String) (reader : Yaml.Reader := .standard) :
    Except SettingsError AgentSettings :=
  match (reader.value? text).bind ofYaml? with
  | some settings => .ok settings
  | none => .error (unreadable text reader)

/-- The settings that a file holds. They are not checked. -/
def ofFile (files : FileTree) (path : String) (reader : Yaml.Reader := .standard) :
    Except SettingsError AgentSettings :=
  let refused (reason : String) : Except SettingsError AgentSettings :=
    .error (.invalid ("Failed to read config file " ++ path ++ ": " ++ reason))
  match files.read path with
  | .error e => refused e.message
  | .ok bytes =>
    match Utf8.decode? bytes with
    | some text => ofText text reader
    | none => refused "stream did not contain valid UTF-8"

/-- The document in a file. -/
def document? (files : FileTree) (path : String) (reader : Yaml.Reader) : Option Yaml := do
  let bytes ← (files.read path).toOption
  let text ← Utf8.decode? bytes
  reader.value? text

theorem ofFile_eq_ok_iff {files : FileTree} {path : String} {reader : Yaml.Reader}
    {s : AgentSettings} :
    ofFile files path reader = .ok s ↔ (document? files path reader).bind ofYaml? = some s := by
  unfold ofFile document?
  cases files.read path with
  | error error => simp [Except.toOption]
  | ok bytes =>
    cases htext : Utf8.decode? bytes with
    | none => simp [Except.toOption, htext]
    | some text =>
      simp only [ofText, Except.toOption, htext, bind, Option.bind_some]
      cases (reader.value? text).bind ofYaml? <;> simp

/-- The settings of a file, or the usual ones where none is named, with the environment laid over
them, checked. -/
def resolve (files : FileTree) (env : Environment) (config : Option String)
    (reader : Yaml.Reader := .standard) : Except SettingsError AgentSettings :=
  match config with
  | none => load env keyStart
  | some path => do (← ofFile files path reader).withEnvironment env keyStart

end AgentSettings

/-! ## JSON -/

/-- The settings of the model that a JSON text holds. -/
def Model.Settings.ofJson? (text : String) : Option Model.Settings := do
  let usual := Model.Settings.standard
  match ← (← Json.Outline.ofText text).fields?
      ["api_key", "base_url", "model", "timeout_secs", "temperature", "max_output_tokens"] with
  | [key, url, model, timeout, temperature, tokens] =>
    return { apiKey := ← Json.Outline.orDefault Json.Outline.text? usual.apiKey key
             baseUrl := ← Json.Outline.orDefault Json.Outline.text? usual.baseUrl url
             model := ← Json.Outline.orDefault Json.Outline.text? usual.model model
             timeoutSecs :=
               ← Json.Outline.orDefault (Json.Outline.natural? maxU64) usual.timeoutSecs timeout
             temperature :=
               ← Json.Outline.orDefault Json.Outline.single? usual.temperature temperature
             maxOutputTokens :=
               ← Json.Outline.orDefault
                 (Json.Outline.nullable? (Json.Outline.natural? maxU64)) usual.maxOutputTokens
                 tokens }
  | _ => none

end Deskhand
