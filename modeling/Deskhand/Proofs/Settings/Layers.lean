/-
  Deskhand.Proofs.Settings.Layers

  The layers below the command line.

  The settings of the file, or the usual ones, with the environment laid over them. Set-ups that
  differ in the port that the file and the environment give come to settings that differ in the port
  at most. The check that follows tells one port from the others: zero.
-/

import Deskhand.Settings.Document

namespace Deskhand

/-- A text that does not begin in the same way is another text. -/
theorem Text.append_ne {front other : String} (h : ¬ front.toList <+: other.toList)
    (rest : String) : front ++ rest ≠ other := by
  rintro rfl
  exact h ⟨rest.toList, String.toList_append.symm⟩

/-! ## Settings that differ in the port -/

namespace AgentSettings

/-- The settings with another port. -/
def withPort (s : AgentSettings) (port : Nat) : AgentSettings :=
  { s with server := { s.server with port } }

/-- The variable for the port. -/
def portKey : String := Environment.key keyStart "port"

/-- Two attempts to read settings that come to the same but for the port. -/
inductive AlikeButPort :
    Except SettingsError AgentSettings → Except SettingsError AgentSettings → Prop
  | refused (error : SettingsError) : AlikeButPort (.error error) (.error error)
  | settled (s : AgentSettings) (port : Nat) : AlikeButPort (.ok s) (.ok (s.withPort port))

theorem AlikeButPort.bind {α : Type} (x : Except SettingsError α)
    {f g : α → Except SettingsError AgentSettings} (h : ∀ a, AlikeButPort (f a) (g a)) :
    AlikeButPort (x >>= f) (x >>= g) := by
  cases x with
  | error error => exact .refused error
  | ok a => exact h a

theorem AlikeButPort.bind_ok {α : Type} (a b : α) {f g : α → Except SettingsError AgentSettings}
    (h : AlikeButPort (f a) (g b)) : AlikeButPort (.ok a >>= f) (.ok b >>= g) := h

/-- The settings of the lower layers: those of the file, or the usual ones, with the environment
laid over them. They are not checked. -/
def gathered (files : Files.FileTree) (env : Environment) (config : Option String)
    (reader : Yaml.Reader) : Except SettingsError AgentSettings := do
  let s ← config.elim (.ok standard) fun path => ofFile files path reader
  s.overlay env keyStart

theorem resolve_eq (files : Files.FileTree) (env : Environment) (config : Option String)
    (reader : Yaml.Reader) :
    resolve files env config reader = do
      let s ← gathered files env config reader
      s.validate
      return s := by
  cases config with
  | none => rfl
  -- The check comes last in both readings.
  | some path =>
    simp only [resolve, gathered, withEnvironment, Option.elim_some]
    cases ofFile files path reader with
    | error error => rfl
    | ok s => rfl

end AgentSettings

/-! ## Documents that differ in the port -/

/-- Documents whose records are the same but for the port of the server, which is a number in both
or not given. A missing record of the server has no fields. -/
inductive Yaml.AlikeButPort : Yaml → Yaml → Prop
  | intro {y z : Yaml} {server otherServer model timing capacity timeout dryRun folder host port
      otherPort origins : Option Yaml} {given otherGiven : Nat}
      (hy : y.fields? ["server", "llm", "timing", "parse_cache_capacity", "plan_timeout_secs",
        "dry_run", "working_dir"] =
          some [server, model, timing, capacity, timeout, dryRun, folder])
      (hz : z.fields? ["server", "llm", "timing", "parse_cache_capacity", "plan_timeout_secs",
        "dry_run", "working_dir"] =
          some [otherServer, model, timing, capacity, timeout, dryRun, folder])
      (hserver : (server.getD .empty).fields? ["host", "port", "allowed_origins"] =
        some [host, port, origins])
      (hother : (otherServer.getD .empty).fields? ["host", "port", "allowed_origins"] =
        some [host, otherPort, origins])
      (hport : Yaml.orDefault (Yaml.natural? 0xFFFF) ServerSettings.standard.port port = some given)
      (hotherPort :
        Yaml.orDefault (Yaml.natural? 0xFFFF) ServerSettings.standard.port otherPort =
          some otherGiven) :
      AlikeButPort y z

theorem ServerSettings.orDefault_ofYaml (server : Option Yaml) :
    Yaml.orDefault ofYaml? standard server = ofYaml? (server.getD .empty) := by
  cases server with
  | none => decide +kernel
  | some y => rfl

namespace AgentSettings

/-- The port is read by itself, so the settings differ in nothing else. -/
theorem ofYaml_alike {y z : Yaml} (h : y.AlikeButPort z) :
    ∃ port, ofYaml? z = (ofYaml? y).map (·.withPort port) := by
  obtain @⟨server, otherServer, model, timing, capacity, timeout, dryRun, folder, host, port,
    otherPort, origins, given, otherGiven, hy, hz, hserver, hother, hport, hotherPort⟩ := h
  -- Everything but the port is taken from the same fields.
  have hservers : Yaml.orDefault ServerSettings.ofYaml? standard.server otherServer =
      (Yaml.orDefault ServerSettings.ofYaml? standard.server server).map
        fun found => { found with port := otherGiven } := by
    rw [show standard.server = ServerSettings.standard from rfl, ServerSettings.orDefault_ofYaml,
      ServerSettings.orDefault_ofYaml]
    simp only [ServerSettings.ofYaml?, hserver, hother, hport, hotherPort, bind, Option.bind_some,
      Option.map_bind, Function.comp_def]
    rfl
  refine ⟨otherGiven, ?_⟩
  simp only [ofYaml?, hy, hz, hservers, bind, Option.bind_some, Option.map_bind, Option.bind_map,
    Function.comp_def]
  rfl

theorem alikeButPort_ofFile {files otherFiles : Files.FileTree} {path : String}
    {reader : Yaml.Reader} {y z : Yaml} (hy : document? files path reader = some y)
    (hz : document? otherFiles path reader = some z) (h : y.AlikeButPort z)
    (hsettings : (ofYaml? y).isSome) :
    AlikeButPort (ofFile files path reader) (ofFile otherFiles path reader) := by
  obtain ⟨s, hs⟩ := Option.isSome_iff_exists.1 hsettings
  obtain ⟨port, hport⟩ := ofYaml_alike h
  rw [hs, Option.map_some] at hport
  have hfile : ofFile files path reader = .ok s := by
    rw [ofFile_eq_ok_iff, hy]
    exact hs
  have hother : ofFile otherFiles path reader = .ok (s.withPort port) := by
    rw [ofFile_eq_ok_iff, hz]
    exact hport
  rw [hfile, hother]
  exact .settled s port

end AgentSettings

/-! ## Environments that differ in the port -/

open AgentSettings (AlikeButPort portKey)

/-- Environments that differ in the port at most, which is a number in both or not given. -/
structure Environment.AlikeButPort (env other : Environment) : Prop where
  others : ∀ key, key ≠ portKey → env.lookup key = other.lookup key
  port : ∃ port, env.parsed portKey (natural 0xFFFF) = .ok port
  otherPort : ∃ port, other.parsed portKey (natural 0xFFFF) = .ok port

namespace Environment.AlikeButPort

variable {env other : Environment}

theorem text (h : env.AlikeButPort other) {key : String} (hkey : key ≠ portKey) :
    other.text key = env.text key := by
  simp only [Environment.text, h.others key hkey]

theorem parsed {α : Type} (h : env.AlikeButPort other) {key : String} (hkey : key ≠ portKey)
    (read : String → Except String α) : other.parsed key read = env.parsed key read := by
  simp only [Environment.parsed, h.text hkey]

theorem list (h : env.AlikeButPort other) {key : String} (hkey : key ≠ portKey) :
    other.list key = env.list key := by
  simp only [Environment.list, h.text hkey]

end Environment.AlikeButPort

namespace AgentSettings

theorem alikeButPort_overlay {env other : Environment} (h : env.AlikeButPort other)
    (s : AgentSettings) (port : Nat) :
    AlikeButPort (s.overlay env keyStart) ((s.withPort port).overlay other keyStart) := by
  obtain ⟨given, hgiven⟩ := h.port
  obtain ⟨otherGiven, hotherGiven⟩ := h.otherPort
  unfold portKey at hgiven hotherGiven
  -- None of the other variables is the one for the port.
  have hkeys : ∀ name ∈ ["host", "allowed_origins", "parse_cache_capacity", "plan_timeout_secs",
      "dry_run"], Environment.key keyStart name ≠ portKey := by
    decide +kernel
  unfold overlay
  simp only [Environment.flag]
  rw [hgiven, hotherGiven, h.text (hkeys "host" (by simp)),
    h.list (hkeys "allowed_origins" (by simp)), h.parsed (hkeys "parse_cache_capacity" (by simp)),
    h.parsed (hkeys "plan_timeout_secs" (by simp)), h.parsed (hkeys "dry_run" (by simp)),
    h.text (show "GEMINI_API_KEY" ≠ portKey by decide +kernel),
    h.text (show "GEMINI_MODEL" ≠ portKey by decide +kernel),
    h.text (show "GEMINI_BASE_URL" ≠ portKey by decide +kernel)]
  -- The steps are the same but for the second one, which reads the port.
  refine .bind _ fun host => .bind_ok given otherGiven ?_
  refine .bind _ fun origins => .bind _ fun capacity => .bind _ fun timeout => ?_
  refine .bind _ fun dryRun => .bind _ fun key => .bind _ fun model => .bind _ fun url => ?_
  exact .settled _ (otherGiven.getD port)

theorem alikeButPort_gathered {files otherFiles : Files.FileTree} {env other : Environment}
    {config : Option String} {reader : Yaml.Reader}
    (hfiles : ∀ path ∈ config,
      AlikeButPort (ofFile files path reader) (ofFile otherFiles path reader))
    (henv : env.AlikeButPort other) :
    AlikeButPort (gathered files env config reader) (gathered otherFiles other config reader) := by
  cases config with
  | none => exact alikeButPort_overlay henv standard standard.server.port
  | some path =>
    have hpath := hfiles path rfl
    simp only [gathered, Option.elim_some]
    generalize ofFile files path reader = read at hpath ⊢
    generalize ofFile otherFiles path reader = otherRead at hpath ⊢
    cases hpath with
    | refused error => exact .refused error
    | settled s port => exact alikeButPort_overlay henv s port

theorem overlay_withPort {env : Environment} {given : Nat}
    (h : env.parsed portKey (Environment.natural 0xFFFF) = .ok (some given)) (s : AgentSettings)
    (port : Nat) : (s.withPort port).overlay env keyStart = s.overlay env keyStart := by
  unfold portKey at h
  simp only [overlay, h]
  rfl

/-- So the environment does win over the file, whatever port that gives: nothing is checked in
between. -/
theorem gathered_eq_of_port {files otherFiles : Files.FileTree} {env : Environment}
    {config : Option String} {reader : Yaml.Reader} {given : Nat}
    (hfiles : ∀ path ∈ config,
      AlikeButPort (ofFile files path reader) (ofFile otherFiles path reader))
    (hport : env.parsed portKey (Environment.natural 0xFFFF) = .ok (some given)) :
    gathered files env config reader = gathered otherFiles env config reader := by
  cases config with
  | none => rfl
  | some path =>
    have hpath := hfiles path rfl
    -- The port of the file is replaced whatever it is.
    simp only [gathered, Option.elim_some]
    generalize ofFile files path reader = read at hpath ⊢
    generalize ofFile otherFiles path reader = otherRead at hpath ⊢
    cases hpath with
    | refused error => rfl
    | settled s port => exact (overlay_withPort hport s port).symm

/-! ## The check -/

/-- What is said about a port that is zero. -/
def zeroPort : String := "server.port must be non-zero"

theorem validate_of_zero {s : AgentSettings} (h : s.server.port = 0) :
    s.validate = .error (.invalid zeroPort) := by
  rw [validate, if_pos h]
  rfl

theorem validate_withPort {s : AgentSettings} {port : Nat} (h : s.server.port ≠ 0)
    (hport : port ≠ 0) : (s.withPort port).validate = s.validate := by
  have hother : (s.withPort port).server.port ≠ 0 := hport
  rw [validate, validate, if_neg h, if_neg hother]
  rfl

/-- Nothing else that is wrong with settings is said in this way. -/
theorem validate_ne_zeroPort {s : AgentSettings} (h : s.server.port ≠ 0) {error : SettingsError}
    (herror : s.validate = .error error) : ∃ text, error = .invalid text ∧ text ≠ zeroPort := by
  rw [validate, if_neg h] at herror
  split at herror
  · refine ⟨_, (Except.error.inj herror).symm, ?_⟩
    -- The remaining complaints begin in other ways.
    rw [String.append_assoc]
    exact Text.append_ne (by decide) _
  · split at herror
    · exact ⟨_, (Except.error.inj herror).symm, by decide⟩
    · cases hmodel : s.model.validate with
      | ok done =>
        rw [hmodel] at herror
        cases herror
      | error reason =>
        rw [hmodel] at herror
        refine ⟨_, (Except.error.inj herror).symm, ?_⟩
        cases reason with
        | connection => decide
        | _ => exact Text.append_ne (by decide) _

end AgentSettings

end Deskhand
