/-
  Deskhand.Proofs.Settings.Overlay

  The environment over the settings.

  Nine settings are governed by a variable each, and all others stay as they are. Laying the
  environment over settings succeeds if every variable that is set is legible and denotes something;
  then the settings are checked, and only then: what is wrong before may be mended by a variable.
  Doing it twice is doing it once.
-/

import Deskhand.Proofs.Settings.Variables
import Deskhand.Settings.Agent

namespace Deskhand.AgentSettings

open Deskhand.Environment Deskhand.Number

variable {env : Environment} {start : String}

/-- The variables that settings are read from. -/
def variableKeys (start : String) : List String :=
  [start ++ "HOST", start ++ "PORT", start ++ "ALLOWED_ORIGINS", start ++ "PARSE_CACHE_CAPACITY",
    start ++ "PLAN_TIMEOUT_SECS", start ++ "DRY_RUN", "GEMINI_API_KEY", "GEMINI_MODEL",
    "GEMINI_BASE_URL"]

/-- Each variable that is set is legible, and those for numbers and the flag denote one. -/
structure Readable (env : Environment) (start : String) : Prop where
  legible : ∀ key ∈ variableKeys start, env.Legible key
  port : ∀ value, env.Gives (start ++ "PORT") value → ∃ n, IsNumeral 0xFFFF value n
  capacity : ∀ value, env.Gives (start ++ "PARSE_CACHE_CAPACITY") value →
    ∃ n, IsNumeral maxU64 value n
  timeout : ∀ value, env.Gives (start ++ "PLAN_TIMEOUT_SECS") value → ∃ n, IsNumeral maxU64 value n
  dryRun : ∀ value, env.Gives (start ++ "DRY_RUN") value → ∃ b, IsWord value b

/-- A limit that is given. -/
def IsLimit (value : String) (limit : Option Nat) : Prop :=
  ∃ n, limit = some n ∧ IsNumeral maxU64 value n

/-- The settings `t` are the settings `s` with the environment laid over them. -/
structure Overlaid (s : AgentSettings) (env : Environment) (start : String) (t : AgentSettings) :
    Prop where
  host : env.Governs (start ++ "HOST") (fun value host => host = value) s.server.host t.server.host
  port : env.Governs (start ++ "PORT") (IsNumeral 0xFFFF) s.server.port t.server.port
  allowedOrigins : env.Governs (start ++ "ALLOWED_ORIGINS") AreItems s.server.allowedOrigins
    t.server.allowedOrigins
  cacheCapacity : env.Governs (start ++ "PARSE_CACHE_CAPACITY") IsLimit s.cacheCapacity
    t.cacheCapacity
  planTimeoutSecs : env.Governs (start ++ "PLAN_TIMEOUT_SECS") IsLimit s.planTimeoutSecs
    t.planTimeoutSecs
  dryRun : env.Governs (start ++ "DRY_RUN") IsWord s.dryRun t.dryRun
  apiKey : env.Governs "GEMINI_API_KEY" (fun value key => key = value) s.model.apiKey t.model.apiKey
  model : env.Governs "GEMINI_MODEL" (fun value model => model = value) s.model.model t.model.model
  baseUrl : env.Governs "GEMINI_BASE_URL" IsUrl s.model.baseUrl t.model.baseUrl
  timeoutSecs : t.model.timeoutSecs = s.model.timeoutSecs
  temperature : t.model.temperature = s.model.temperature
  maxOutputTokens : t.model.maxOutputTokens = s.model.maxOutputTokens
  timing : t.timing = s.timing
  folder : t.folder = s.folder

/-! ## Laying the environment over settings -/

theorem key_eq (start : String) {name upper : String} (h : Text.uppercase name = upper) :
    Environment.key start name = start ++ upper := by
  rw [Environment.key, h]

/-- Nine variables are read, and each setting takes over what is found for it. -/
theorem overlay_eq_ok_iff_exists {s t : AgentSettings} :
    s.overlay env start = .ok t ↔
      (∃ found, env.text (start ++ "HOST") = .ok found ∧
        t.server.host = found.getD s.server.host) ∧
      (∃ found, env.parsed (start ++ "PORT") (natural 0xFFFF) = .ok found ∧
        t.server.port = found.getD s.server.port) ∧
      (∃ found, env.list (start ++ "ALLOWED_ORIGINS") = .ok found ∧
        t.server.allowedOrigins = found.getD s.server.allowedOrigins) ∧
      (∃ found, env.parsed (start ++ "PARSE_CACHE_CAPACITY") (natural maxU64) = .ok found ∧
        t.cacheCapacity = found.or s.cacheCapacity) ∧
      (∃ found, env.parsed (start ++ "PLAN_TIMEOUT_SECS") (natural maxU64) = .ok found ∧
        t.planTimeoutSecs = found.or s.planTimeoutSecs) ∧
      (∃ found, env.flag (start ++ "DRY_RUN") = .ok found ∧ t.dryRun = found.getD s.dryRun) ∧
      (∃ found, env.text "GEMINI_API_KEY" = .ok found ∧
        t.model.apiKey = found.getD s.model.apiKey) ∧
      (∃ found, env.text "GEMINI_MODEL" = .ok found ∧ t.model.model = found.getD s.model.model) ∧
      (∃ found, env.text "GEMINI_BASE_URL" = .ok found ∧
        t.model.baseUrl = (found.map Model.Settings.withoutSlashes).getD s.model.baseUrl) ∧
      t.model.timeoutSecs = s.model.timeoutSecs ∧ t.model.temperature = s.model.temperature ∧
      t.model.maxOutputTokens = s.model.maxOutputTokens ∧ t.timing = s.timing ∧
      t.folder = s.folder := by
  -- The names of the variables, in capital letters.
  have hhost := key_eq start (show Text.uppercase "host" = "HOST" by decide +kernel)
  have hport := key_eq start (show Text.uppercase "port" = "PORT" by decide +kernel)
  have horigins := key_eq start
    (show Text.uppercase "allowed_origins" = "ALLOWED_ORIGINS" by decide +kernel)
  have hcapacity := key_eq start
    (show Text.uppercase "parse_cache_capacity" = "PARSE_CACHE_CAPACITY" by decide +kernel)
  have htimeout := key_eq start
    (show Text.uppercase "plan_timeout_secs" = "PLAN_TIMEOUT_SECS" by decide +kernel)
  have hdryRun := key_eq start (show Text.uppercase "dry_run" = "DRY_RUN" by decide +kernel)
  simp only [overlay, bind_eq_ok_iff, hhost, hport, horigins, hcapacity, htimeout, hdryRun, pure,
    Except.pure, Except.ok.injEq]
  constructor
  · rintro ⟨host, hhost, port, hport, origins, horigins, capacity, hcapacity, timeout, htimeout,
      dryRun, hdryRun, apiKey, hapiKey, model, hmodel, baseUrl, hbaseUrl, rfl⟩
    exact ⟨⟨host, hhost, rfl⟩, ⟨port, hport, rfl⟩, ⟨origins, horigins, rfl⟩,
      ⟨capacity, hcapacity, rfl⟩, ⟨timeout, htimeout, rfl⟩, ⟨dryRun, hdryRun, rfl⟩,
      ⟨apiKey, hapiKey, rfl⟩, ⟨model, hmodel, rfl⟩, ⟨baseUrl, hbaseUrl, rfl⟩, rfl, rfl, rfl, rfl,
      rfl⟩
  · obtain ⟨server, ⟨_, _, _, _, _, _⟩, _, _, _, _, _⟩ := t
    rintro ⟨⟨host, hhost, ehost⟩, ⟨port, hport, eport⟩, ⟨origins, horigins, eorigins⟩,
      ⟨capacity, hcapacity, rfl⟩, ⟨timeout, htimeout, rfl⟩, ⟨dryRun, hdryRun, rfl⟩,
      ⟨apiKey, hapiKey, rfl⟩, ⟨model, hmodel, rfl⟩, ⟨baseUrl, hbaseUrl, rfl⟩, rfl, rfl, rfl, rfl,
      rfl⟩
    refine ⟨host, hhost, port, hport, origins, horigins, capacity, hcapacity, timeout, htimeout,
      dryRun, hdryRun, apiKey, hapiKey, model, hmodel, baseUrl, hbaseUrl, ?_⟩
    rw [← ehost, ← eport, ← eorigins]

theorem overlay_eq_ok_iff {s t : AgentSettings} :
    s.overlay env start = .ok t ↔
      (∀ key ∈ variableKeys start, env.Legible key) ∧ s.Overlaid env start t := by
  rw [overlay_eq_ok_iff_exists]
  simp only [text_governs_iff, natural_governs_iff, list_governs_iff, limit_governs_iff,
    flag_governs_iff, url_governs_iff, variableKeys, List.forall_mem_cons, List.not_mem_nil,
    false_imp_iff, implies_true, and_true]
  constructor
  · rintro ⟨host, port, origins, capacity, timeout, dryRun, apiKey, model, baseUrl, h⟩
    exact ⟨⟨host.1, port.1, origins.1, capacity.1, timeout.1, dryRun.1, apiKey.1, model.1,
      baseUrl.1⟩, host.2, port.2, origins.2, capacity.2, timeout.2, dryRun.2, apiKey.2, model.2,
      baseUrl.2, h.1, h.2.1, h.2.2.1, h.2.2.2.1, h.2.2.2.2⟩
  · rintro ⟨⟨host, port, origins, capacity, timeout, dryRun, apiKey, model, baseUrl⟩, h⟩
    exact ⟨⟨host, h.host⟩, ⟨port, h.port⟩, ⟨origins, h.allowedOrigins⟩,
      ⟨capacity, h.cacheCapacity⟩, ⟨timeout, h.planTimeoutSecs⟩, ⟨dryRun, h.dryRun⟩,
      ⟨apiKey, h.apiKey⟩, ⟨model, h.model⟩, ⟨baseUrl, h.baseUrl⟩, h.timeoutSecs, h.temperature,
      h.maxOutputTokens, h.timing, h.folder⟩

theorem exists_overlay_iff {s : AgentSettings} :
    (∃ t, s.overlay env start = .ok t) ↔ Readable env start := by
  constructor
  · rintro ⟨t, ht⟩
    obtain ⟨hlegible, h⟩ := overlay_eq_ok_iff.1 ht
    have hlimit : ∀ {key old new}, env.Governs key IsLimit old new →
        ∀ value, env.Gives key value → ∃ n, IsNumeral maxU64 value n := by
      intro key old new hgoverns value hvalue
      obtain ⟨n, -, hn⟩ := hgoverns.given value hvalue
      exact ⟨n, hn⟩
    exact ⟨hlegible, fun value hvalue => ⟨_, h.port.given value hvalue⟩, hlimit h.cacheCapacity,
      hlimit h.planTimeoutSecs, fun value hvalue => ⟨_, h.dryRun.given value hvalue⟩⟩
  · intro h
    -- Each variable gives a value for its setting, or leaves the old one.
    have hverbatim : ∀ key old, ∃ new : String,
        env.Governs key (fun value new => new = value) old new := fun key =>
      exists_governs fun value _ => ⟨value, rfl⟩
    have hlimit : ∀ {key} old, (∀ value, env.Gives key value → ∃ n, IsNumeral maxU64 value n) →
        ∃ new, env.Governs key IsLimit old new := by
      intro key old hkey
      refine exists_governs (fun value hvalue => ?_) old
      obtain ⟨n, hn⟩ := hkey value hvalue
      exact ⟨some n, n, rfl, hn⟩
    obtain ⟨host, hhost⟩ := hverbatim (start ++ "HOST") s.server.host
    obtain ⟨port, hport⟩ := exists_governs h.port s.server.port
    have hitems : ∀ value, env.Gives (start ++ "ALLOWED_ORIGINS") value →
        ∃ origins, AreItems value origins := fun value _ => ⟨items value, areItems_iff.2 rfl⟩
    have hurl : ∀ value, env.Gives "GEMINI_BASE_URL" value → ∃ url, IsUrl value url :=
      fun value _ => ⟨_, isUrl_iff.2 rfl⟩
    obtain ⟨origins, horigins⟩ := exists_governs hitems s.server.allowedOrigins
    obtain ⟨capacity, hcapacity⟩ := hlimit s.cacheCapacity h.capacity
    obtain ⟨timeout, htimeout⟩ := hlimit s.planTimeoutSecs h.timeout
    obtain ⟨dryRun, hdryRun⟩ := exists_governs h.dryRun s.dryRun
    obtain ⟨apiKey, hapiKey⟩ := hverbatim "GEMINI_API_KEY" s.model.apiKey
    obtain ⟨model, hmodel⟩ := hverbatim "GEMINI_MODEL" s.model.model
    obtain ⟨baseUrl, hbaseUrl⟩ := exists_governs hurl s.model.baseUrl
    exact ⟨{ s with
        server := ⟨host, port, origins⟩
        model := { s.model with apiKey, model, baseUrl }
        cacheCapacity := capacity
        planTimeoutSecs := timeout
        dryRun },
      overlay_eq_ok_iff.2 ⟨h.legible, hhost, hport, horigins, hcapacity, htimeout, hdryRun, hapiKey,
        hmodel, hbaseUrl, rfl, rfl, rfl, rfl, rfl⟩⟩

/-! ## The check behind it -/

theorem withEnvironment_eq_ok_iff {s t : AgentSettings} :
    s.withEnvironment env start = .ok t ↔
      s.overlay env start = .ok t ∧ t.validate = .ok () := by
  simp only [withEnvironment, bind_eq_ok_iff, pure, Except.pure, Except.ok.injEq]
  constructor
  · rintro ⟨t, ht, ⟨⟩, hcheck, rfl⟩
    exact ⟨ht, hcheck⟩
  · rintro ⟨ht, hcheck⟩
    exact ⟨t, ht, (), hcheck, rfl⟩

/-- Settings that have the environment laid over them keep it. -/
theorem Overlaid.again {s t : AgentSettings} (h : s.Overlaid env start t) :
    t.Overlaid env start t :=
  ⟨h.host.again, h.port.again, h.allowedOrigins.again, h.cacheCapacity.again,
    h.planTimeoutSecs.again, h.dryRun.again, h.apiKey.again, h.model.again, h.baseUrl.again, rfl,
    rfl, rfl, rfl, rfl⟩

/-- **The environment over the settings.** Laying the environment over settings succeeds exactly if
each of the nine variables that is set is valid UTF-8, and those for the port, the two limits and
the flag denote one if they are not blank. Each of the nine settings is then what its variable
denotes, or what it was if that is blank or not set, and all others are what they were. The whole
succeeds with these settings exactly if they pass the check, and doing it again changes nothing. -/
theorem withEnvironment_overlays (s : AgentSettings) (env : Environment) (start : String) :
    ((∃ t, s.overlay env start = .ok t) ↔ Readable env start) ∧
      (∀ t, s.overlay env start = .ok t ↔ Readable env start ∧ s.Overlaid env start t) ∧
      (∀ t, s.withEnvironment env start = .ok t ↔
        Readable env start ∧ s.Overlaid env start t ∧ t.validate = .ok ()) ∧
      (do (← s.withEnvironment env start).withEnvironment env start) =
        s.withEnvironment env start := by
  have hoverlay : ∀ t, s.overlay env start = .ok t ↔
      Readable env start ∧ s.Overlaid env start t := by
    intro t
    constructor
    · exact fun ht => ⟨exists_overlay_iff.1 ⟨t, ht⟩, (overlay_eq_ok_iff.1 ht).2⟩
    · exact fun h => overlay_eq_ok_iff.2 ⟨h.1.legible, h.2⟩
  refine ⟨exists_overlay_iff, hoverlay, fun t => ?_, ?_⟩
  · rw [withEnvironment_eq_ok_iff, hoverlay, and_assoc]
  -- The second time the same variables are found, and the settings have their values already.
  · cases hs : s.withEnvironment env start with
    | error error => rfl
    | ok t =>
      obtain ⟨ht, hcheck⟩ := withEnvironment_eq_ok_iff.1 hs
      obtain ⟨hlegible, hoverlaid⟩ := overlay_eq_ok_iff.1 ht
      exact withEnvironment_eq_ok_iff.2 ⟨overlay_eq_ok_iff.2 ⟨hlegible, hoverlaid.again⟩, hcheck⟩

/-- A port that cannot work is mended by its variable, and a blank flag is none. -/
example :
    let s := { standard with server := { ServerSettings.standard with port := 0 } }
    let env := [("PORT", Text.Utf8.encode " +81 "), ("DRY_RUN", Text.Utf8.encode " ")]
    (s.withEnvironment env "").toOption.map (fun t => (t.server.port, t.dryRun)) =
      some (81, false) := by
  decide +kernel

end Deskhand.AgentSettings
