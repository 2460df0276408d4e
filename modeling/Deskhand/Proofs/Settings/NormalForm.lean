/-
  Deskhand.Proofs.Settings.NormalForm

  Settings of the model in normal form.

  In normal form the address of the model has no slash at its end and the time limit is one second
  at least. Every step by which a program puts settings together keeps to it, and so does the
  variable for the address, but a document is taken by its word, whichever reader it comes from: its
  settings are in normal form exactly if what it says is. The check of a client asks for neither.
-/

import Deskhand.Model.Gemini
import Deskhand.Proofs.Settings.Overlay
import Deskhand.Settings.Document
import Mathlib.Control.Monad.Basic

namespace Deskhand

open Deskhand.Files Deskhand.Number Deskhand.Text

namespace Model.Settings

/-- The address has no slash at its end, and the time limit is one second at least. -/
structure NormalForm (s : Settings) : Prop where
  baseUrl : s.baseUrl.toList.getLast? ≠ some '/'
  timeoutSecs : 1 ≤ s.timeoutSecs

/-- Settings that are put together step by step. -/
inductive Built : Settings → Prop
  | create (apiKey baseUrl model : String) : Built (create apiKey baseUrl model)
  | withTimeout {s : Settings} (h : Built s) (limit : Duration) : Built (s.withTimeout limit)
  | withTemperature {s : Settings} (h : Built s) (temperature : Single) :
      Built (s.withTemperature temperature)
  | withMaxOutputTokens {s : Settings} (h : Built s) (tokens : Option Nat) :
      Built (s.withMaxOutputTokens tokens)

theorem normalForm_iff {s : Settings} :
    s.NormalForm ↔ s.baseUrl.toList.getLast? ≠ some '/' ∧ 1 ≤ s.timeoutSecs :=
  ⟨fun h => ⟨h.baseUrl, h.timeoutSecs⟩, fun h => ⟨h.1, h.2⟩⟩

theorem getLast?_withoutSlashes (url : String) :
    (withoutSlashes url).toList.getLast? ≠ some '/' := by
  rw [withoutSlashes, String.toList_ofList]
  exact (eq_trimEndOf_iff.1 rfl).2

/-- The settings where a document says nothing. -/
theorem normalForm_standard : standard.NormalForm :=
  ⟨getLast?_withoutSlashes standardUrl, by decide⟩

theorem Built.normalForm {s : Settings} (h : Built s) : s.NormalForm := by
  induction h with
  | create apiKey baseUrl model => exact ⟨getLast?_withoutSlashes baseUrl, show 1 ≤ 30 by decide⟩
  | withTimeout _ limit ih => exact ⟨ih.baseUrl, Nat.le_max_right _ 1⟩
  | withTemperature _ temperature ih => exact ⟨ih.baseUrl, ih.timeoutSecs⟩
  | withMaxOutputTokens _ tokens ih => exact ⟨ih.baseUrl, ih.timeoutSecs⟩

end Model.Settings

/-- What prompts are sent to lies behind exactly one slash. -/
def Model.Gemini.Client.OneSlash (client : Client) : Prop :=
  ∃ front : String, client.endpoint =
    front ++ "/models/" ++ client.settings.model ++ ":generateContent" ∧
      front.toList.getLast? ≠ some '/'

theorem Model.Gemini.Client.oneSlash_iff (client : Client) :
    client.OneSlash ↔ client.settings.baseUrl.toList.getLast? ≠ some '/' := by
  constructor
  · rintro ⟨front, hfront, hslash⟩
    -- Both addresses end in the same way, so what stands in front is the same.
    have hlists := congrArg String.toList hfront
    simp only [endpoint, String.toList_append, List.append_cancel_right_eq] at hlists
    rwa [hlists]
  · exact fun h => ⟨_, rfl, h⟩

/-! ## What a document says -/

/-- What a record of the model says about its address and its time limit. -/
inductive Yaml.ModelSays (y : Yaml) : Option String → Option Nat → Prop
  | intro {key url name timeout temperature tokens : Option Yaml} {saidUrl : Option String}
      {saidTimeout : Option Nat}
      (hfields : y.fields? ["api_key", "base_url", "model", "timeout_secs", "temperature",
        "max_output_tokens"] = some [key, url, name, timeout, temperature, tokens])
      (hurl : url.mapM Yaml.text? = some saidUrl)
      (htimeout : timeout.mapM (Yaml.natural? maxU64) = some saidTimeout) :
      ModelSays y saidUrl saidTimeout

/-- What a document says about the model. A missing record of the model has no fields. -/
inductive Yaml.Says (y : Yaml) (url : Option String) (timeout : Option Nat) : Prop
  | intro {server model timing capacity limit dryRun folder : Option Yaml}
      (hfields : y.fields? ["server", "llm", "timing", "parse_cache_capacity", "plan_timeout_secs",
        "dry_run", "working_dir"] = some [server, model, timing, capacity, limit, dryRun, folder])
      (hmodel : (model.getD .empty).ModelSays url timeout)

theorem Yaml.ModelSays.unique {y : Yaml} {url otherUrl : Option String}
    {timeout otherTimeout : Option Nat} (h : y.ModelSays url timeout)
    (hother : y.ModelSays otherUrl otherTimeout) : otherUrl = url ∧ otherTimeout = timeout := by
  obtain ⟨hfields, hurl, htimeout⟩ := h
  obtain ⟨hotherFields, hotherUrl, hotherTimeout⟩ := hother
  obtain ⟨-, rfl, -, rfl, -, -⟩ := by simpa using hfields.symm.trans hotherFields
  exact ⟨Option.some.inj (hotherUrl.symm.trans hurl),
    Option.some.inj (hotherTimeout.symm.trans htimeout)⟩

theorem Yaml.Says.unique {y : Yaml} {url otherUrl : Option String}
    {timeout otherTimeout : Option Nat} (h : y.Says url timeout)
    (hother : y.Says otherUrl otherTimeout) : otherUrl = url ∧ otherTimeout = timeout := by
  obtain ⟨hfields, hmodel⟩ := h
  obtain ⟨hotherFields, hotherModel⟩ := hother
  obtain ⟨-, rfl, -⟩ := by simpa using hfields.symm.trans hotherFields
  exact hmodel.unique hotherModel

/-- A field that may be missing has the value that is said, or else the usual one. -/
theorem Yaml.orDefault_eq_some_iff {α : Type} {read : Yaml → Option α} {usual value : α}
    {field : Option Yaml} :
    Yaml.orDefault read usual field = some value ↔
      ∃ said, field.mapM read = some said ∧ value = said.getD usual := by
  cases field with
  | none => simp [orDefault, eq_comm]
  | some y => cases hread : read y <;> simp [orDefault, hread, eq_comm]

namespace Model.Settings

/-- Where a document says nothing about the address or the time limit, they are the usual ones. -/
structure Follows (s : Settings) (url : Option String) (timeout : Option Nat) : Prop where
  baseUrl : s.baseUrl = url.getD standard.baseUrl
  timeoutSecs : s.timeoutSecs = timeout.getD standard.timeoutSecs

theorem Follows.getLast?_iff {s : Settings} {url : Option String} {timeout : Option Nat}
    (h : s.Follows url timeout) :
    s.baseUrl.toList.getLast? ≠ some '/' ↔ ∀ said ∈ url, said.toList.getLast? ≠ some '/' := by
  rw [h.baseUrl]
  cases url with
  | none => simpa using normalForm_standard.baseUrl
  | some said => simp

theorem Follows.timeoutSecs_iff {s : Settings} {url : Option String} {timeout : Option Nat}
    (h : s.Follows url timeout) : 1 ≤ s.timeoutSecs ↔ timeout ≠ some 0 := by
  rw [h.timeoutSecs]
  cases timeout with
  | none => simpa using normalForm_standard.timeoutSecs
  | some said => simp [Nat.one_le_iff_ne_zero]

theorem exists_modelSays {y : Yaml} {s : Settings} (h : ofYaml? y = some s) :
    ∃ url timeout, y.ModelSays url timeout ∧ s.Follows url timeout := by
  simp only [ofYaml?, bind, Option.bind_eq_some_iff] at h
  obtain ⟨fields, hfields, h⟩ := h
  split at h
  -- Of the six fields two are followed, and the others are not looked at.
  · obtain ⟨key, -, baseUrl, hbaseUrl, name, -, timeoutSecs, htimeoutSecs, temperature, -, tokens,
      -, hs⟩ := by simpa only [Option.bind_eq_some_iff] using h
    obtain ⟨url, hurl, rfl⟩ := Yaml.orDefault_eq_some_iff.1 hbaseUrl
    obtain ⟨timeout, htimeout, rfl⟩ := Yaml.orDefault_eq_some_iff.1 htimeoutSecs
    obtain rfl := Option.some.inj hs
    exact ⟨url, timeout, ⟨hfields, hurl, htimeout⟩, rfl, rfl⟩
  · cases h

theorem orDefault_ofYaml (model : Option Yaml) :
    Yaml.orDefault ofYaml? standard model = ofYaml? (model.getD .empty) := by
  cases model with
  | none => decide +kernel
  | some y => rfl

end Model.Settings

namespace AgentSettings

theorem exists_says {y : Yaml} {s : AgentSettings} (h : ofYaml? y = some s) :
    ∃ url timeout, y.Says url timeout ∧ s.model.Follows url timeout := by
  simp only [ofYaml?, bind, Option.bind_eq_some_iff] at h
  obtain ⟨fields, hfields, h⟩ := h
  split at h
  · obtain ⟨server, -, model, hmodel, timing, -, capacity, -, timeout, -, dryRun, -, folder, -,
      hs⟩ := by simpa only [Option.bind_eq_some_iff] using h
    obtain rfl := Option.some.inj hs
    rw [show standard.model = Model.Settings.standard from rfl,
      Model.Settings.orDefault_ofYaml] at hmodel
    obtain ⟨url, timeout, hsays, hfollows⟩ := Model.Settings.exists_modelSays hmodel
    exact ⟨url, timeout, ⟨hfields, hsays⟩, hfollows⟩
  · cases h

/-- What a settings file says about the model, as the reader takes it. -/
def FileSays (reader : Yaml.Reader) (files : FileTree) (path : String) (url : Option String)
    (timeout : Option Nat) : Prop :=
  ∃ y, document? files path reader = some y ∧ y.Says url timeout

theorem exists_fileSays {reader : Yaml.Reader} {files : FileTree} {path : String}
    {s : AgentSettings} (h : ofFile files path reader = .ok s) :
    ∃ url timeout, FileSays reader files path url timeout ∧ s.model.Follows url timeout := by
  obtain ⟨y, hy, hs⟩ := Option.bind_eq_some_iff.1 (ofFile_eq_ok_iff.1 h)
  obtain ⟨url, timeout, hsays, hfollows⟩ := exists_says hs
  exact ⟨url, timeout, ⟨y, hy, hsays⟩, hfollows⟩

theorem FileSays.unique {reader : Yaml.Reader} {files : FileTree} {path : String}
    {url otherUrl : Option String} {timeout otherTimeout : Option Nat}
    (h : FileSays reader files path url timeout)
    (hother : FileSays reader files path otherUrl otherTimeout) :
    otherUrl = url ∧ otherTimeout = timeout := by
  obtain ⟨y, hy, hsays⟩ := h
  obtain ⟨otherY, hotherY, hotherSays⟩ := hother
  obtain rfl : y = otherY := Option.some.inj (hy.symm.trans hotherY)
  exact hsays.unique hotherSays

/-- A variable for the address restores its form, and nothing restores that of the time limit. -/
theorem Overlaid.normalForm_iff {s t : AgentSettings} {env : Environment} {start : String}
    (h : s.Overlaid env start t) :
    t.model.NormalForm ↔
      ((∃ value, env.Gives "GEMINI_BASE_URL" value) ∨
        s.model.baseUrl.toList.getLast? ≠ some '/') ∧ 1 ≤ s.model.timeoutSecs := by
  have hurl : t.model.baseUrl.toList.getLast? ≠ some '/' ↔
      (∃ value, env.Gives "GEMINI_BASE_URL" value) ∨
        s.model.baseUrl.toList.getLast? ≠ some '/' := by
    -- What the variable denotes has no slash at its end, whatever the settings had before.
    by_cases hgives : ∃ value, env.Gives "GEMINI_BASE_URL" value
    · obtain ⟨value, hvalue⟩ := hgives
      exact iff_of_true (h.baseUrl.given value hvalue).2 (.inl ⟨value, hvalue⟩)
    · rw [h.baseUrl.kept (not_exists.1 hgives)]
      exact (or_iff_right hgives).symm
  rw [Model.Settings.normalForm_iff, hurl, h.timeoutSecs]

end AgentSettings

/-! ## Where settings come from -/

namespace Model.Settings

/-- The ways by which a client comes by its settings: they are put together step by step, read from
a settings file, or those of the file, or the usual ones, with the environment laid over them. The
file may be read by any reader of YAML. -/
inductive Supply where
  | steps (s : Settings) (built : Built s)
  | file (reader : Yaml.Reader) (files : FileTree) (path : String)
  | layers (reader : Yaml.Reader) (files : FileTree) (env : Environment) (config : Option String)

namespace Supply

/-- The settings that are supplied. -/
def settings : Supply → Except SettingsError Settings
  | steps s _ => .ok s
  | file reader files path => do return (← AgentSettings.ofFile files path reader).model
  | layers reader files env config =>
    do return (← AgentSettings.resolve files env config reader).model

/-- What the settings file says, if there is one, is in normal form, save for an address that the
environment hides. -/
def Sound : Supply → Prop
  | steps _ _ => True
  | file reader files path => ∃ url timeout, AgentSettings.FileSays reader files path url timeout ∧
      (∀ said ∈ url, said.toList.getLast? ≠ some '/') ∧ timeout ≠ some 0
  | layers _ _ _ none => True
  | layers reader files env (some path) =>
      ∃ url timeout, AgentSettings.FileSays reader files path url timeout ∧
        ((∃ value, env.Gives "GEMINI_BASE_URL" value) ∨
          ∀ said ∈ url, said.toList.getLast? ≠ some '/') ∧ timeout ≠ some 0

/-- What the file says decides, since it says one thing only. -/
theorem exists_fileSays_iff {reader : Yaml.Reader} {files : FileTree} {path : String}
    {saidUrl : Option String} {saidTimeout : Option Nat} {P : Option String → Option Nat → Prop}
    (h : AgentSettings.FileSays reader files path saidUrl saidTimeout) :
    (∃ url timeout, AgentSettings.FileSays reader files path url timeout ∧ P url timeout) ↔
      P saidUrl saidTimeout := by
  constructor
  · rintro ⟨url, timeout, hsays, hP⟩
    obtain ⟨rfl, rfl⟩ := h.unique hsays
    exact hP
  · exact fun hP => ⟨saidUrl, saidTimeout, h, hP⟩

theorem normalForm_iff {supply : Supply} {s : Settings} (h : supply.settings = .ok s) :
    s.NormalForm ↔ supply.Sound := by
  cases supply with
  | steps built hbuilt =>
    obtain rfl : built = s := Except.ok.inj h
    exact iff_of_true hbuilt.normalForm trivial
  | file reader files path =>
    simp only [settings, bind_eq_ok_iff, pure, Except.pure, Except.ok.injEq] at h
    obtain ⟨t, ht, rfl⟩ := h
    obtain ⟨url, timeout, hsays, hfollows⟩ := AgentSettings.exists_fileSays ht
    rw [Settings.normalForm_iff, hfollows.getLast?_iff, hfollows.timeoutSecs_iff, Sound,
      exists_fileSays_iff hsays]
  | layers reader files env config =>
    simp only [settings, bind_eq_ok_iff, pure, Except.pure, Except.ok.injEq] at h
    obtain ⟨t, ht, rfl⟩ := h
    -- The check behind the environment looks at neither the slash nor the time limit.
    cases config with
    | none =>
      obtain ⟨hoverlay, -⟩ := AgentSettings.withEnvironment_eq_ok_iff.1 ht
      rw [(AgentSettings.overlay_eq_ok_iff.1 hoverlay).2.normalForm_iff]
      exact iff_of_true ⟨.inr normalForm_standard.baseUrl, normalForm_standard.timeoutSecs⟩ trivial
    | some path =>
      obtain ⟨s, hs, ht⟩ := bind_eq_ok_iff.1 ht
      obtain ⟨hoverlay, -⟩ := AgentSettings.withEnvironment_eq_ok_iff.1 ht
      obtain ⟨url, timeout, hsays, hfollows⟩ := AgentSettings.exists_fileSays hs
      rw [(AgentSettings.overlay_eq_ok_iff.1 hoverlay).2.normalForm_iff, hfollows.getLast?_iff,
        hfollows.timeoutSecs_iff, Sound, exists_fileSays_iff hsays]

end Supply

end Model.Settings

namespace Model.Gemini.Client

open Model.Settings

/-- **Normal form of the settings of a client.** They are in normal form exactly if its prompts are
sent to an address with exactly one slash in front of the models and it waits for one second at
least. Where its settings were put together step by step this is so, and where they come from a
settings file it is so exactly if what the file says is in normal form; an address that the
environment gives hides that of the file. -/
theorem normalForm_iff_sound {supply : Supply} {s : Settings} {client : Client}
    (hs : supply.settings = .ok s) (hclient : Client.create s = .ok client) :
    (client.settings.NormalForm ↔ supply.Sound) ∧
      (client.settings.NormalForm ↔ client.OneSlash ∧ 1 ≤ client.settings.timeoutSecs) := by
  obtain ⟨_, -, hclient⟩ := bind_eq_ok_iff.1 hclient
  obtain rfl : ⟨s⟩ = client := Except.ok.inj hclient
  rw [oneSlash_iff]
  exact ⟨Supply.normalForm_iff hs, Settings.normalForm_iff⟩

/-- A settings file with a slash at the end of the address. -/
def slashFile : FileTree :=
  ⟨[(["s.yaml"], .file (Utf8.encode "llm: \x7bbase_url: 'http://x/', api_key: k\x7d\n"))], []⟩

/-- The settings of the model that the file comes to with another address. -/
def slashSettings (baseUrl : String) : Settings := { Settings.standard with apiKey := "k", baseUrl }

theorem create_slashSettings {baseUrl : String} (h : blank baseUrl = false) :
    Client.create (slashSettings baseUrl) = .ok ⟨slashSettings baseUrl⟩ := by
  have hvalid : (slashSettings baseUrl).validate = .ok () := by
    have hmodel : blank Settings.standard.model = false := by decide +kernel
    have htemperature : isTemperature Settings.standard.temperature = true := by decide +kernel
    simp [Settings.validate, slashSettings, h, hmodel, htemperature]
  rw [Client.create, hvalid]
  rfl

/-- The address of the file ends in a slash, and the variable hides it with one that loses its own
slashes. -/
theorem normalForm_of_hiddenSlash :
    let supply :=
      Supply.layers .standard slashFile [("GEMINI_BASE_URL", Utf8.encode "http://y//")] "s.yaml"
    let client : Client := ⟨slashSettings "http://y"⟩
    supply.settings = .ok client.settings ∧ Client.create client.settings = .ok client ∧
      supply.Sound ∧ client.OneSlash ∧ client.settings.NormalForm := by
  intro supply client
  -- The file is read and the environment laid over it by evaluation.
  have hs : supply.settings = .ok client.settings := by decide +kernel
  have hclient : Client.create client.settings = .ok client :=
    create_slashSettings (by decide +kernel)
  have hform : client.settings.NormalForm := ⟨by decide +kernel, by decide +kernel⟩
  obtain ⟨hsound, hslash⟩ := normalForm_iff_sound hs hclient
  exact ⟨hs, hclient, hsound.1 hform, (hslash.1 hform).1, hform⟩

/-- The settings of the file alone keep their slash, and a client is made of them. -/
theorem not_forall_normalForm :
    ¬ ∀ (supply : Supply) (s : Settings) (client : Client),
      supply.settings = .ok s → Client.create s = .ok client → client.settings.NormalForm := by
  intro h
  have hs : (Supply.file .standard slashFile "s.yaml").settings =
      .ok (slashSettings "http://x/") := by
    decide +kernel
  have hform := h _ _ _ hs (create_slashSettings (by decide +kernel))
  exact hform.baseUrl (by decide +kernel)

end Model.Gemini.Client

end Deskhand
