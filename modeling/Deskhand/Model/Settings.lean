/-
  Deskhand.Model.Settings

  Settings of the language model.

  Where the model is reached, which one is asked, and how it is to answer.
-/

import Deskhand.Duration
import Deskhand.Model.Error
import Deskhand.Number.Style
import Deskhand.Settings.Environment

namespace Deskhand.Model

open Deskhand.Number
open Deskhand.Text

structure Settings where
  apiKey : String
  baseUrl : String
  model : String
  timeoutSecs : Nat
  temperature : Single
  maxOutputTokens : Option Nat
  deriving DecidableEq

namespace Settings

def standardUrl : String := "https://generativelanguage.googleapis.com/v1beta"

/-- The model that is asked unless another one is named. -/
def standardModel : String := "gemini-1.5-flash-latest"

def withoutSlashes (url : String) : String := String.ofList (trimEndOf '/' url.toList)

/-- Settings with the usual limits. -/
def create (apiKey baseUrl model : String) : Settings :=
  { apiKey
    baseUrl := withoutSlashes baseUrl
    model
    timeoutSecs := 30
    temperature := .ofNat _ 0
    maxOutputTokens := some 712 }

/-- Settings without a key. -/
def standard : Settings := create "" standardUrl standardModel

/-- Settings with the key that a variable of the environment holds. -/
def ofEnvironment (env : Environment) (name : String) : Except Error Settings :=
  match (env.lookup name).bind Utf8.decode? with
  | some key =>
    if blank key then .error (.missingKey ("Environment variable: " ++ name))
    else .ok (create key standardUrl standardModel)
  | none => .error (.missingKey ("Environment variable: " ++ name))

/-- A time limit in whole seconds, and one second at least. -/
def withTimeout (settings : Settings) (limit : Duration) : Settings :=
  { settings with timeoutSecs := max (limit.micros / 1000000) 1 }

/-- Another temperature. It is not checked. -/
def withTemperature (settings : Settings) (temperature : Single) : Settings :=
  { settings with temperature }

/-- Another limit for the length of answers, or none. -/
def withMaxOutputTokens (settings : Settings) (maxOutputTokens : Option Nat) : Settings :=
  { settings with maxOutputTokens }

def hasKey (settings : Settings) : Bool := !blank settings.apiKey

def isTemperature (x : Single) : Bool := x.isWithin 2

/-- Refuses settings that cannot work. -/
def validate (settings : Settings) : Except Error Unit :=
  if blank settings.baseUrl then .error (.settings "base_url must not be empty")
  else if blank settings.model then .error (.settings "model must not be empty")
  else if isTemperature settings.temperature then .ok ()
  else .error (.settings ("temperature " ++ settings.temperature.text ++ " is outside 0.0..=2.0"))

/-- The settings as messages show them, without the key. -/
def describe (settings : Settings) : String :=
  let tokens := settings.maxOutputTokens.elim "None" fun n => "Some(" ++ toString n ++ ")"
  "RemoteLlmConfig \x7b api_key: " ++ quoted (if settings.hasKey then "[REDACTED]" else "") ++
    ", base_url: " ++ quoted settings.baseUrl ++ ", model: " ++ quoted settings.model ++
    ", timeout_secs: " ++ toString settings.timeoutSecs ++
    ", temperature: " ++ settings.temperature.spell .described ++
    ", max_output_tokens: " ++ tokens ++ " \x7d"

end Settings

end Deskhand.Model
