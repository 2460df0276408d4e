/-
  Deskhand.Proofs.CommandLine.Precedence

  A port on the command line.

  A flag for the port replaces the port that the settings file and the environment give. But the
  settings of these lower layers are checked before the flags are looked at, and a port that is zero
  fails the check. So the overridden port has no influence as long as it is not zero, and ends the
  call if it is. Between the file and the environment there is no check: there a port is hidden
  whatever it is. All this holds however settings files are read.
-/

import Deskhand.CommandLine.Program
import Deskhand.Proofs.Settings.Layers

namespace Deskhand.CommandLine

open AgentSettings (AlikeButPort gathered portKey zeroPort)
open Text (append_ne)

/-! ## Reading the settings of a call -/

/-- The failure of a call where the lower layers give the port zero. -/
def zeroPortFailure : Failure :=
  .because "Failed to load configuration" (SettingsError.invalid zeroPort).message

/-- What the lower layers come to: they are checked, the flags are applied, and the outcome is
checked again. -/
def Invocation.settle (call : Invocation) (s : AgentSettings) : Except Failure AgentSettings := do
  s.validate.mapError fun e => .because "Failed to load configuration" e.message
  (call.apply s).validate.mapError fun e => .because "Invalid configuration" e.message
  return call.apply s

theorem settings_of_error {call : Invocation} (shell : Shell) {error : SettingsError}
    (h : gathered shell.files shell.env call.config shell.reader = .error error) :
    call.settings shell = .error (.because "Failed to load configuration" error.message) := by
  rw [Invocation.settings, AgentSettings.resolve_eq, h]
  rfl

theorem settings_of_ok {call : Invocation} (shell : Shell) {s : AgentSettings}
    (h : gathered shell.files shell.env call.config shell.reader = .ok s) :
    call.settings shell = call.settle s := by
  rw [Invocation.settings, AgentSettings.resolve_eq, h, Invocation.settle]
  simp only [bind, Except.bind]
  cases s.validate with
  | error error => rfl
  | ok done => rfl

theorem settle_of_zero (call : Invocation) {s : AgentSettings} (h : s.server.port = 0) :
    call.settle s = .error zeroPortFailure := by
  rw [Invocation.settle, AgentSettings.validate_of_zero h]
  rfl

/-- A port that is not zero has no influence where a flag gives another one. -/
theorem settle_withPort {call : Invocation} {host : Option String} {port : Nat}
    (htask : call.task = .serve host (some port)) {s : AgentSettings} {lower : Nat}
    (h : s.server.port ≠ 0) (hlower : lower ≠ 0) :
    call.settle (s.withPort lower) = call.settle s := by
  have happly : call.apply (s.withPort lower) = call.apply s := by
    simp only [Invocation.apply, htask, AgentSettings.withPort, Option.getD_some]
  rw [Invocation.settle, Invocation.settle, AgentSettings.validate_withPort h hlower, happly]

theorem settle_ne (call : Invocation) {s : AgentSettings} (h : s.server.port ≠ 0) :
    call.settle s ≠ .error zeroPortFailure := by
  unfold Invocation.settle
  cases hlower : s.validate with
  | error error =>
    -- The first check finds something other than the port.
    obtain ⟨text, rfl, htext⟩ := AgentSettings.validate_ne_zeroPort h hlower
    intro hsame
    have hcause : some (SettingsError.invalid text).message =
        some (SettingsError.invalid zeroPort).message :=
      congrArg Failure.cause (Except.error.inj hsame)
    exact htext ((String.append_right_inj _).mp (Option.some.inj hcause))
  | ok done =>
    cases (call.apply s).validate with
    | error error =>
      -- The second check reports its failures under another heading.
      intro hsame
      have hmessage : "Invalid configuration" = "Failed to load configuration" :=
        congrArg Failure.message (Except.error.inj hsame)
      exact absurd hmessage (by decide)
    | ok done => nofun

/-! ## Serving -/

/-- How a call that serves ends. -/
def Ending.ofAddress : Except Failure SocketAddress → Ending
  | .error failure => .failed failure
  | .ok address => .listening address

theorem Ending.ofAddress_inj {x y : Except Failure SocketAddress} :
    ofAddress x = ofAddress y ↔ x = y := by
  constructor
  · intro h
    cases x with
    | error failure =>
      cases y with
      | error other => rw [Ending.failed.inj h]
      | ok address => cases h
    | ok address =>
      cases y with
      | error failure => cases h
      | ok other => rw [Ending.listening.inj h]
  · exact congrArg ofAddress

theorem perform_serve (shell : Shell) (s : AgentSettings) (host : Option String)
    (port : Option Nat) :
    (perform shell s (.serve host port)).ending = .ofAddress (serve shell s) := by
  unfold perform
  cases serve shell s with
  | error failure => rfl
  | ok address => rfl

theorem ending_of_serve {call : Invocation} {host : Option String} {port : Option Nat}
    (htask : call.task = .serve host port) (shell : Shell) :
    (call.perform shell).ending = .ofAddress (call.settings shell >>= serve shell) := by
  unfold Invocation.perform
  cases call.settings shell with
  | error failure => rfl
  | ok s =>
    simp only [htask, bind, Except.bind]
    exact perform_serve shell s host port

theorem serve_ne (shell : Shell) (s : AgentSettings) : serve shell s ≠ .error zeroPortFailure := by
  unfold serve modelGenerator
  -- Each way to fail has a message or a cause of its own.
  cases s.address with
  | error error =>
    intro hsame
    have hcause : none = zeroPortFailure.cause := congrArg Failure.cause (Except.error.inj hsame)
    cases hcause
  | ok address =>
    cases Model.Gemini.Client.create s.model with
    | error error =>
      intro hsame
      have hmessage : "Failed to create Gemini client" = "Failed to load configuration" :=
        congrArg Failure.message (Except.error.inj hsame)
      exact absurd hmessage (by decide)
    | ok client =>
      delta Except.mapError
      dsimp only [bind, Except.bind, pure, Except.pure]
      cases shell.refusesToListen address with
      | none => nofun
      | some reason =>
        intro hsame
        have hmessage : "Failed to bind " ++ address.text = "Failed to load configuration" :=
          congrArg Failure.message (Except.error.inj hsame)
        exact append_ne (by decide) _ hmessage

theorem settle_bind_serve_ne {call : Invocation} {s : AgentSettings} (shell : Shell)
    (h : s.server.port ≠ 0) : call.settle s >>= serve shell ≠ .error zeroPortFailure := by
  have hne := settle_ne call h
  cases hsettle : call.settle s with
  | error failure =>
    rw [hsettle] at hne
    exact fun hsame => hne (congrArg Except.error (Except.error.inj hsame))
  | ok applied => exact serve_ne shell applied

/-! ## The overridden port -/

/-- Reading the words of a command line, only the variable that names the settings file is looked
at. -/
theorem read_congr {env other : Environment} (h : env.lookup configKey = other.lookup configKey)
    (words : List String) : Invocation.read other words = Invocation.read env words := by
  simp only [Invocation.read, configOf, environmentConfig?, h]

/-- Whether the port is zero before the flags of a call are looked at. -/
def Invocation.ZeroBelow (call : Invocation) (shell : Shell) : Prop :=
  ∃ s, gathered shell.files shell.env call.config shell.reader = .ok s ∧ s.server.port = 0

theorem zeroBelow_iff {call : Invocation} (shell : Shell) {s : AgentSettings}
    (h : gathered shell.files shell.env call.config shell.reader = .ok s) :
    call.ZeroBelow shell ↔ s.server.port = 0 := by
  constructor
  · rintro ⟨found, hfound, hport⟩
    rwa [Except.ok.inj (h.symm.trans hfound)]
  · exact fun hport => ⟨s, h, hport⟩

theorem not_zeroBelow_of_error {call : Invocation} (shell : Shell) {error : SettingsError}
    (h : gathered shell.files shell.env call.config shell.reader = .error error) :
    ¬ call.ZeroBelow shell := by
  rintro ⟨s, hs, -⟩
  cases h.symm.trans hs

/-- Settings that differ in the port come to the same under the flag if both ports are zero or
neither is. -/
theorem settle_bind_serve_eq_iff {call : Invocation} {host : Option String} {port : Nat}
    (htask : call.task = .serve host (some port)) (shell : Shell) (s : AgentSettings)
    (lower : Nat) :
    call.settle s >>= serve shell = call.settle (s.withPort lower) >>= serve shell ↔
      (s.server.port = 0 ↔ lower = 0) := by
  by_cases hs : s.server.port = 0
  · by_cases hlower : lower = 0
    · have hother : (s.withPort lower).server.port = 0 := hlower
      rw [settle_of_zero call hs, settle_of_zero call hother]
      exact iff_of_true rfl (iff_of_true hs hlower)
    · -- Only the first port is zero, and only there this is said.
      have hother : (s.withPort lower).server.port ≠ 0 := hlower
      rw [settle_of_zero call hs]
      exact iff_of_false (settle_bind_serve_ne shell hother).symm fun h => hlower (h.mp hs)
  · by_cases hlower : lower = 0
    · have hother : (s.withPort lower).server.port = 0 := hlower
      rw [settle_of_zero call hother]
      exact iff_of_false (settle_bind_serve_ne shell hs) fun h => hs (h.mpr hlower)
    · rw [settle_withPort htask hs hlower]
      exact iff_of_true rfl (iff_of_false hs hlower)

/-- Where the flags give the port, lower layers that differ in it lead to one end if they give zero
in both set-ups or in neither. -/
theorem ending_eq_iff_of_gathered {shell : Shell} {env : Environment} {files : Files.FileTree}
    {call : Invocation} {host : Option String} {port : Nat}
    (h : AlikeButPort (gathered shell.files shell.env call.config shell.reader)
      (gathered files env call.config shell.reader))
    (htask : call.task = .serve host (some port)) :
    (call.perform shell).ending = (call.perform { shell with env, files }).ending ↔
      (call.ZeroBelow shell ↔ call.ZeroBelow { shell with env, files }) := by
  rw [ending_of_serve htask, ending_of_serve htask, Ending.ofAddress_inj]
  generalize hx : gathered shell.files shell.env call.config shell.reader = x at h
  generalize hy : gathered files env call.config shell.reader = y at h
  cases h with
  | refused error =>
    -- Neither set-up comes to settings, and the reason is the same.
    rw [settings_of_error shell hx, settings_of_error { shell with env, files } hy]
    exact iff_of_true rfl (iff_of_false (not_zeroBelow_of_error shell hx)
      (not_zeroBelow_of_error { shell with env, files } hy))
  | settled s lower =>
    rw [settings_of_ok shell hx, settings_of_ok { shell with env, files } hy,
      zeroBelow_iff shell hx, zeroBelow_iff { shell with env, files } hy]
    exact settle_bind_serve_eq_iff htask shell s lower

/-- A port that the environment gives hides that of the file altogether, a zero included: nothing is
checked between the two layers. -/
theorem Invocation.ending_eq_of_environmentPort {shell : Shell} {files : Files.FileTree}
    {call : Invocation} {host : Option String} {port : Option Nat} {given : Nat}
    (hgiven : shell.env.parsed portKey (Environment.natural 0xFFFF) = .ok (some given))
    (hfiles : ∀ path ∈ call.config,
      AlikeButPort (AgentSettings.ofFile shell.files path shell.reader)
        (AgentSettings.ofFile files path shell.reader))
    (htask : call.task = .serve host port) :
    (call.perform shell).ending = (call.perform { shell with files }).ending := by
  have hgathered := AgentSettings.gathered_eq_of_port hfiles hgiven
  rw [ending_of_serve htask, ending_of_serve htask]
  unfold Invocation.settings
  rw [AgentSettings.resolve_eq, AgentSettings.resolve_eq, hgathered]
  rfl

/-- The port that a flag overrides, by what the documents of the two settings files say. -/
theorem Invocation.ending_eq_iff_of_documents {shell : Shell} {env : Environment}
    {files : Files.FileTree} {call : Invocation} {host : Option String} {port : Nat}
    (henv : shell.env.AlikeButPort env)
    (hfiles : ∀ path ∈ call.config, ∃ y z,
      AgentSettings.document? shell.files path shell.reader = some y ∧
        AgentSettings.document? files path shell.reader = some z ∧ y.AlikeButPort z ∧
          (AgentSettings.ofYaml? y).isSome)
    (htask : call.task = .serve host (some port)) :
    (call.perform shell).ending = (call.perform { shell with env, files }).ending ↔
      (call.ZeroBelow shell ↔ call.ZeroBelow { shell with env, files }) := by
  refine ending_eq_iff_of_gathered (AgentSettings.alikeButPort_gathered ?_ henv) htask
  intro path hpath
  obtain ⟨y, z, hy, hz, halike, hsettings⟩ := hfiles path hpath
  exact AgentSettings.alikeButPort_ofFile hy hz halike hsettings

/-- Set-ups that differ in the port only read the words of a command line alike. Where the flags
give the port, they end the call alike if the overridden port is zero in both or in neither.
Otherwise they do not: a zero is refused before the flags are looked at. -/
theorem Invocation.ending_eq_iff_zeroBelow {shell : Shell} {env : Environment}
    {files : Files.FileTree} {call : Invocation} {host : Option String} {port : Nat}
    (henv : shell.env.AlikeButPort env)
    (hfiles : ∀ path ∈ call.config,
      AlikeButPort (AgentSettings.ofFile shell.files path shell.reader)
        (AgentSettings.ofFile files path shell.reader))
    (htask : call.task = .serve host (some port)) :
    (∀ words, Invocation.read env words = Invocation.read shell.env words) ∧
      ((call.perform shell).ending = (call.perform { shell with env, files }).ending ↔
        (call.ZeroBelow shell ↔ call.ZeroBelow { shell with env, files })) := by
  have hconfig : shell.env.lookup configKey = env.lookup configKey :=
    henv.others configKey (by decide +kernel)
  exact ⟨read_congr hconfig,
    ending_eq_iff_of_gathered (AgentSettings.alikeButPort_gathered hfiles henv) htask⟩

/-! The settings file gives an address for many receivers, where no program can listen, and a
port. -/

def portFileText (port : String) : String :=
  "server: \x7bhost: '[ff02::2]', port: " ++ port ++
    ", allowed_origins: []\x7d\nllm: \x7bapi_key: k\x7d\n"

/-- The settings file, and nothing else. -/
def portFile (port : String) : Files.FileTree :=
  ⟨[(["s.yaml"], .file (Text.Utf8.encode (portFileText port)))], []⟩

def portFileSettings (port : Nat) : AgentSettings :=
  { AgentSettings.standard with
    server := ⟨"[ff02::2]", port, []⟩
    model := { Model.Settings.standard with apiKey := "k" } }

def overridingWords : List String := ["-c", "s.yaml", "serve", "-p", "81"]

def overridingCall : Invocation :=
  { config := some "s.yaml", verbose := false, dryRun := false, task := .serve none (some 81) }

def portShell (env : Environment) (port : String) : Shell :=
  { env
    files := portFile port
    input := []
    place := ⟨.linux, "/", fun _ => false, none⟩
    identifier := toString
    network := fun _ => none
    refusesToListen := fun address =>
      if address.isUnusable then some "Invalid argument (os error 22)" else none }

theorem ofFile_portFile {text : String} {port : Nat}
    (h : (AgentSettings.ofFile (portFile text) "s.yaml").toOption = some (portFileSettings port)) :
    AgentSettings.ofFile (portFile text) "s.yaml" = .ok (portFileSettings port) := by
  cases hread : AgentSettings.ofFile (portFile text) "s.yaml" with
  | error error =>
    rw [hread] at h
    cases h
  | ok s =>
    rw [hread] at h
    rw [Option.some.inj h]

theorem ofFile_zero : AgentSettings.ofFile (portFile "0") "s.yaml" = .ok (portFileSettings 0) :=
  ofFile_portFile (by decide +kernel)

theorem ofFile_eighty : AgentSettings.ofFile (portFile "80") "s.yaml" = .ok (portFileSettings 80) :=
  ofFile_portFile (by decide +kernel)

/-- Without variables the lower layers come to what the file holds. -/
theorem gathered_portFile {text : String} {port : Nat}
    (h : AgentSettings.ofFile (portFile text) "s.yaml" = .ok (portFileSettings port)) :
    gathered (portFile text) [] overridingCall.config .standard = .ok (portFileSettings port) := by
  rw [gathered, overridingCall, Option.elim_some, h]
  rfl

theorem not_zeroBelow_eighty : ¬ overridingCall.ZeroBelow (portShell [] "80") := by
  rw [zeroBelow_iff (portShell [] "80") (gathered_portFile ofFile_eighty)]
  decide

theorem alikeButPort_portFile : ∀ path ∈ overridingCall.config,
    AlikeButPort (AgentSettings.ofFile (portFile "0") path)
      (AgentSettings.ofFile (portFile "80") path) := by
  intro path hpath
  rw [← Option.some.inj hpath, ofFile_zero, ofFile_eighty]
  exact .settled (portFileSettings 0) 80

/-- The environment has the last word in one set-up and the file in the other, and neither says
zero. -/
theorem ending_eq_of_overriddenPort :
    let env : Environment := [(portKey, Text.Utf8.encode " 7 ")]
    env.AlikeButPort [] ∧
      (∀ path ∈ overridingCall.config,
        AlikeButPort (AgentSettings.ofFile (portFile "0") path)
          (AgentSettings.ofFile (portFile "80") path)) ∧
      Invocation.read env overridingWords = .ok overridingCall ∧
      overridingCall.task = .serve none (some 81) ∧
      ¬ overridingCall.ZeroBelow (portShell env "0") ∧
      ¬ overridingCall.ZeroBelow (portShell [] "80") ∧
      (overridingCall.perform (portShell env "0")).ending =
        (overridingCall.perform (portShell [] "80")).ending := by
  intro env
  have hports : env.AlikeButPort [] :=
    { others := fun key hkey => by rw [List.lookup_cons, beq_false_of_ne hkey]
      port := ⟨some 7, by rfl⟩
      otherPort := ⟨none, rfl⟩ }
  have hread : Invocation.read env overridingWords = .ok overridingCall := by rfl
  -- In the first set-up the variable hides the zero of the file.
  have hzero : ¬ overridingCall.ZeroBelow (portShell env "0") := by
    have hgathered : gathered (portFile "0") env overridingCall.config .standard =
        .ok (portFileSettings 7) := by
      rw [gathered, overridingCall, Option.elim_some, ofFile_zero]
      rfl
    rw [zeroBelow_iff (portShell env "0") hgathered]
    decide
  obtain ⟨-, hending⟩ := @Invocation.ending_eq_iff_zeroBelow (portShell env "0") [] (portFile "80")
    overridingCall none 81 hports alikeButPort_portFile rfl
  exact ⟨hports, alikeButPort_portFile, hread, rfl, hzero, not_zeroBelow_eighty,
    hending.mpr (iff_of_false hzero not_zeroBelow_eighty)⟩

/-- The file says zero in one set-up and 80 in the other, and the flag says 81. -/
theorem not_forall_ending_eq :
    ¬ ∀ (shell : Shell) (env : Environment) (files : Files.FileTree) (words : List String)
      (call : Invocation) (host : Option String) (port : Nat),
      shell.env.AlikeButPort env →
      (∀ path ∈ call.config, AlikeButPort (AgentSettings.ofFile shell.files path shell.reader)
        (AgentSettings.ofFile files path shell.reader)) →
      Invocation.read shell.env words = .ok call → call.task = .serve host (some port) →
      (call.perform shell).ending = (call.perform { shell with env, files }).ending := by
  intro h
  have hports : Environment.AlikeButPort [] [] := ⟨fun _ _ => rfl, ⟨none, rfl⟩, ⟨none, rfl⟩⟩
  have hsame := h (portShell [] "0") [] (portFile "80") overridingWords overridingCall none 81
    hports alikeButPort_portFile rfl rfl
  -- The zero is below the flag in the first set-up only, and the first call fails at it.
  have hzero : overridingCall.ZeroBelow (portShell [] "0") :=
    ⟨portFileSettings 0, gathered_portFile ofFile_zero, rfl⟩
  have hgathered : AlikeButPort (gathered (portFile "0") [] overridingCall.config .standard)
      (gathered (portFile "80") [] overridingCall.config .standard) := by
    rw [gathered_portFile ofFile_zero, gathered_portFile ofFile_eighty]
    exact .settled (portFileSettings 0) 80
  have hboth := (@ending_eq_iff_of_gathered (portShell [] "0") [] (portFile "80") overridingCall
    none 81 hgathered rfl).mp hsame
  exact not_zeroBelow_eighty (hboth.mp hzero)

end Deskhand.CommandLine
