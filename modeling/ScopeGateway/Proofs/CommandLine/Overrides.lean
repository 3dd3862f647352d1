import ScopeGateway.Proofs.Gateway.Listening
import ScopeGateway.Proofs.Settings.Independence

/-!
From the arguments to the settings of a run: what a file says, what the arguments put in its place,
and the check that nothing gets past.
-/
namespace ScopeGateway.CommandLine

open Net Settings
open Text.Utf8 (Bytes)

namespace Arguments

variable {a : Arguments} {file : String → Option Bytes} {s t : Settings}

/-- What the arguments find before they override anything: the stock settings if they name no file,
and else the settings of the file or the error that there are none. -/
inductive Finds (a : Arguments) (file : String → Option Bytes) : Except SettingsError Settings → Prop
  | stock : a.config = none → a.Finds file (.ok {})
  | settings {path : String} {text : List Char} {s : Settings} :
    a.config = some path → (file path).bind Text.Utf8.decode? = some text →
    Settings.parse? (String.ofList text) = some s → a.Finds file (.ok s)
  | unreadable {path : String} :
    a.config = some path → (file path).bind Text.Utf8.decode? = none →
    a.Finds file (.error .unreadable)
  | malformed {path : String} {text : List Char} :
    a.config = some path → (file path).bind Text.Utf8.decode? = some text →
    Settings.parse? (String.ofList text) = none → a.Finds file (.error .malformed)

theorem finds_iff {x : Except SettingsError Settings} :
    a.Finds file x ↔ (a.config.elim (.ok {}) fun path => Settings.load (file path)) = x := by
  constructor
  · rintro (hnone | ⟨hpath, htext, hparse⟩ | ⟨hpath, htext⟩ | ⟨hpath, htext, hparse⟩)
    · rw [hnone, Option.elim_none]
    · simp only [hpath, Option.elim_some, Settings.load, htext, Settings.parse, hparse]
    · simp only [hpath, Option.elim_some, Settings.load, htext]
    · simp only [hpath, Option.elim_some, Settings.load, htext, Settings.parse, hparse]
  · rintro rfl
    cases hpath : a.config with
    | none => exact .stock hpath
    | some path =>
      rw [Option.elim_some, Settings.load]
      cases htext : (file path).bind Text.Utf8.decode? with
      | none => exact .unreadable hpath htext
      | some text =>
        cases hparse : Settings.parse? (String.ofList text) with
        | none =>
          simp only [Settings.parse, hparse]
          exact .malformed hpath htext hparse
        | some s =>
          simp only [Settings.parse, hparse]
          exact .settings hpath htext hparse

theorem settings_of_error {e : SettingsError} (h : a.Finds file (.error e)) :
    a.settings file = .error e :=
  bind_of_error (finds_iff.mp h)

theorem settings_of_ok (h : a.Finds file (.ok s)) : a.settings file = .ok (a.override s) :=
  bind_of_ok (finds_iff.mp h)

/-- The values that the arguments put in the place of others. -/
def overrides (a : Arguments) : Part → Bool
  | .bindAddress => a.bind.isSome
  | .backendUrl => a.backend.isSome
  | _ => false

theorem override_agreesAt {p : Part} (s : Settings) (h : a.overrides p = false) :
    (a.override s).AgreesAt s p := by
  cases p with
  | bindAddress =>
    rw [overrides, Option.isSome_eq_false_iff, Option.isNone_iff_eq_none] at h
    change a.bind.getD s.bindAddress = s.bindAddress
    rw [h, Option.getD_none]
  | backendUrl =>
    rw [overrides, Option.isSome_eq_false_iff, Option.isNone_iff_eq_none] at h
    change a.backend.getD s.backendUrl = s.backendUrl
    rw [h, Option.getD_none]
  | _ => rfl

/-- It does not matter what stood where the arguments put something else. -/
theorem override_congr (h : ∀ p, a.overrides p = false → s.AgreesAt t p) :
    a.override s = a.override t := by
  refine eq_of_agreesAt fun p => ?_
  cases hp : a.overrides p with
  | false => exact ((override_agreesAt s hp).trans (h p hp)).trans (override_agreesAt t hp).symm
  | true =>
    cases p with
    | bindAddress =>
      obtain ⟨text, htext⟩ := Option.isSome_iff_exists.mp hp
      change a.bind.getD s.bindAddress = a.bind.getD t.bindAddress
      rw [htext, Option.getD_some, Option.getD_some]
    | backendUrl =>
      obtain ⟨url, hurl⟩ := Option.isSome_iff_exists.mp hp
      change a.backend.getD s.backendUrl = a.backend.getD t.backendUrl
      rw [hurl, Option.getD_some, Option.getD_some]
    | _ => cases hp

/-- The faults of the other values are those of the file, in their order. -/
theorem filter_faults_override (a : Arguments) (s : Settings) :
    (a.override s).faults.filter (!a.overrides ·.part) =
      s.faults.filter (!a.overrides ·.part) := by
  refine filter_faults_congr fun f hf p hp => override_agreesAt s ?_
  obtain rfl | ⟨rfl, -⟩ := hp
  · rwa [Bool.not_eq_true'] at hf
  · rfl

/-- An address of the arguments that is none is a fault, whatever the file says. -/
theorem notAnAddress_mem_faults_override {text : String} (s : Settings) (h : a.bind = some text)
    (hparse : SocketAddress.parse text = none) :
    .notAnAddress .bindAddress text ∈ (a.override s).faults := by
  have hvalue : (a.override s).bindAddress = text := by
    change a.bind.getD s.bindAddress = text
    rw [h, Option.getD_some]
  rw [← hvalue] at hparse ⊢
  exact mem_faults_iff.mpr (.bindAddress hparse)

/-- So is a backend of the arguments that cannot be used. -/
theorem unusableBackend_mem_faults_override {url : String} {e : BackendError} (s : Settings)
    (h : a.backend = some url) (hrefuses : Backend.Refuses url e) :
    .unusableBackend e ∈ (a.override s).faults := by
  have hvalue : (a.override s).backendUrl = url := by
    change a.backend.getD s.backendUrl = url
    rw [h, Option.getD_some]
  rw [← hvalue] at hrefuses
  exact mem_faults_iff.mpr (.backend hrefuses)

end Arguments

variable {s : Settings} {around : Surroundings} {check : Bool}

theorem runWith_of_not_isSound (h : ¬s.IsSound) :
    runWith s check around = ⟨[.starting], some (.settings (.faulty s.faults))⟩ := by
  rw [isSound_iff_faults] at h
  rw [runWith, check_eq_error_iff.mpr ⟨h, rfl⟩]

theorem runWith_of_isSound (h : s.IsSound) :
    runWith s check around =
      if check then ⟨[.starting, .settingsValid], none⟩
      else serveUntilSignal s around [.starting] := by
  rw [runWith, check_eq_ok_iff.mpr (isSound_iff_faults.mp h)]

/-- Only a run that serves looks at the addresses around it. -/
theorem runWith_congr {around' : Surroundings} (h : ¬(s.IsSound ∧ check = false)) :
    runWith s check around' = runWith s check around := by
  by_cases hs : s.IsSound
  · have hcheck : check = true := by
      rw [← Bool.not_eq_false]
      exact fun hno => h ⟨hs, hno⟩
    rw [runWith_of_isSound hs, runWith_of_isSound hs, if_pos hcheck, if_pos hcheck]
  · rw [runWith_of_not_isSound hs, runWith_of_not_isSound hs]

theorem eq_of_serving_mem_serveUntilSignal {early : List Event} {address : String} {t : Settings}
    (hearly : ∀ address t, Event.serving address t ∉ early)
    (h : Event.serving address t ∈ (serveUntilSignal s around early).events) : t = s := by
  unfold serveUntilSignal at h
  split at h
  · exact absurd h (hearly address t)
  · rename_i metrics _
    have hbefore : Event.serving address t ∉
        early ++ (metrics.map fun a => Event.metricsListening a.render).toList := by
      rw [List.mem_append, not_or]
      exact ⟨hearly address t, by cases metrics <;> simp⟩
    split at h
    · exact absurd h hbefore
    · have hlast := (List.mem_append.mp h).resolve_left hbefore
      simp only [List.mem_cons, Event.serving.injEq, reduceCtorEq, List.not_mem_nil, or_false]
        at hlast
      exact hlast.2

/-- A run serves with the settings that it was given, and only if they are sound. -/
theorem serving_mem_runWith {address : String} {t : Settings}
    (h : Event.serving address t ∈ (runWith s check around).events) :
    t = s ∧ s.IsSound ∧ check = false := by
  by_cases hs : s.IsSound
  · rw [runWith_of_isSound hs] at h
    cases check with
    | true => simp at h
    | false => exact ⟨eq_of_serving_mem_serveUntilSignal (by simp) h, hs, rfl⟩
  · rw [runWith_of_not_isSound hs] at h
    simp at h

/-- A run that only checks succeeds where the settings are sound. -/
theorem exitCode_check_iff {format : LogFormat} {filter : LogFilter} :
    (Outcome.ran (runWith s true around) format filter).exitCode = 0 ↔ s.IsSound := by
  rw [Outcome.exitCode]
  by_cases hs : s.IsSound
  · rw [runWith_of_isSound hs, if_pos rfl]
    exact iff_of_true rfl hs
  · rw [runWith_of_not_isSound hs]
    exact iff_of_false (by simp [exitCodeOf]) hs

section
variable {args : List String} {configVariable logVariable : Option String} {a : Arguments}
  (h : parseArguments args configVariable = .ok a)
include h

theorem outcome_of_error {e : SettingsError} (he : a.Finds around.file (.error e)) :
    outcome args configVariable logVariable around = .unreadable e := by
  simp only [outcome, h, Arguments.settings_of_error he]

theorem outcome_of_settings (hs : a.Finds around.file (.ok s)) :
    outcome args configVariable logVariable around =
      .ran (runWith (a.override s) a.check around) s.log.format (logFilter s logVariable) := by
  simp only [outcome, h, Arguments.settings_of_ok hs]
  rfl

end

/-- The settings of a run are those of the file that the arguments name, or the stock settings, with
the arguments' own values in place of two of them. A file that gives no settings ends the program
with its error, whatever else the arguments say. Otherwise the settings are checked as they are with
the values of the arguments: what stood in their place does not matter, the arguments' own values do,
and the faults of all other values stay as they were. Unsound settings end the run with exactly their
faults; it serves if they are sound and more than a check is asked for; and otherwise it looks at
nothing else around it. -/
theorem overrides_win_and_are_checked (args : List String)
    (configVariable logVariable : Option String) (around : Surroundings) (a : Arguments)
    (h : parseArguments args configVariable = .ok a) :
    (∃ found, a.Finds around.file found) ∧
    (∀ e, a.Finds around.file (.error e) →
      outcome args configVariable logVariable around = .unreadable e) ∧
    ∀ s, a.Finds around.file (.ok s) →
      ((a.override s).bindAddress = a.bind.getD s.bindAddress ∧
        (a.override s).backendUrl = a.backend.getD s.backendUrl ∧
        ∀ p : Part, p ≠ .bindAddress → p ≠ .backendUrl → (a.override s).AgreesAt s p) ∧
      ((∀ t, (∀ p, a.overrides p = false → s.AgreesAt t p) → a.override s = a.override t) ∧
        (∀ text, a.bind = some text → SocketAddress.parse text = none →
          .notAnAddress .bindAddress text ∈ (a.override s).faults) ∧
        (∀ url e, a.backend = some url → Backend.Refuses url e →
          .unusableBackend e ∈ (a.override s).faults) ∧
        (a.override s).faults.filter (!a.overrides ·.part) =
          s.faults.filter (!a.overrides ·.part)) ∧
      ∃ run, outcome args configVariable logVariable around =
          .ran run s.log.format (logFilter s logVariable) ∧
        (¬(a.override s).IsSound →
          run = ⟨[.starting], some (.settings (.faulty (a.override s).faults))⟩) ∧
        ((a.override s).IsSound → a.check = true → run = ⟨[.starting, .settingsValid], none⟩) ∧
        ((a.override s).IsSound → a.check = false →
          run = serveUntilSignal (a.override s) around [.starting]) ∧
        (∀ address t, .serving address t ∈ run.events →
          t = a.override s ∧ (a.override s).IsSound ∧ a.check = false) ∧
        (¬((a.override s).IsSound ∧ a.check = false) →
          ∀ around' : Surroundings, around'.file = around.file →
            outcome args configVariable logVariable around' =
              outcome args configVariable logVariable around) ∧
        (a.check = true → ((outcome args configVariable logVariable around).exitCode = 0 ↔
          (a.override s).IsSound)) := by
  refine ⟨⟨_, Arguments.finds_iff.mpr rfl⟩, fun e => outcome_of_error h,
    fun s hs => ⟨⟨rfl, rfl, fun p hbind hbackend => ?_⟩, ?_, ?_⟩⟩
  · exact Arguments.override_agreesAt s (by cases p <;> simp_all [Arguments.overrides])
  · exact ⟨fun t => Arguments.override_congr,
      fun text => Arguments.notAnAddress_mem_faults_override s,
      fun url e => Arguments.unusableBackend_mem_faults_override s,
      Arguments.filter_faults_override a s⟩
  · refine ⟨_, outcome_of_settings h hs, runWith_of_not_isSound, fun hsound hcheck => ?_,
      fun hsound hcheck => ?_, fun address t => serving_mem_runWith,
      fun hidle around' hfile => ?_, fun hcheck => ?_⟩
    · rw [runWith_of_isSound hsound, if_pos hcheck]
    · rw [runWith_of_isSound hsound, if_neg (by rw [hcheck]; decide)]
    · have hs' : a.Finds around'.file (.ok s) := hfile ▸ hs
      rw [outcome_of_settings h hs', outcome_of_settings h hs, runWith_congr hidle]
    · rw [outcome_of_settings h hs, hcheck]
      exact exitCode_check_iff

/-- A document with an address to listen on that is none, and a health path without a slash. -/
def misaddressedText : String :=
  "[listener]\nbind_address = \"local\"\n[health]\npath = \"live\""

def besideMisaddressedFile : Surroundings where
  file path := if path = "gate.toml" then some (Text.Utf8.encode misaddressedText.toList) else none
  inUse _ := false
  bound := SocketAddress.render

/-- The arguments put the address right, and the health path stays wrong. -/
def correction : Arguments := ⟨some "gate.toml", some "[::]:80", some "http://[::1]:9091", true⟩

theorem misaddressedFile_half_corrected :
    ∃ run, outcome ["--config", "gate.toml", "--bind=[::]:80", "--upstream", "http://[::1]:9091",
        "--check"] none none besideMisaddressedFile = .ran run .pretty (logFilter {} none) ∧
      run = ⟨[.starting], some (.settings (.faulty [.relativePath .healthPath "live"]))⟩ := by
  have hcorrection : parseArguments ["--config", "gate.toml", "--bind=[::]:80", "--upstream",
      "http://[::1]:9091", "--check"] none = .ok correction := by
    decide +kernel
  have htext : (besideMisaddressedFile.file "gate.toml").bind Text.Utf8.decode? =
      some misaddressedText.toList := by
    decide +kernel
  have hparse : Settings.parse? (String.ofList misaddressedText.toList) =
      some { bindAddress := "local", healthPath := "live" } := by
    decide +kernel
  obtain ⟨-, -, hfound⟩ :=
    overrides_win_and_are_checked _ none none besideMisaddressedFile _ hcorrection
  obtain ⟨-, -, run, hrun, hunsound, -⟩ := hfound _ (.settings rfl htext hparse)
  have hfaults : (correction.override { bindAddress := "local", healthPath := "live" }).faults =
      [.relativePath .healthPath "live"] := by
    decide +kernel
  rw [isSound_iff_faults, hfaults] at hunsound
  exact ⟨run, hrun, hunsound nofun⟩

end ScopeGateway.CommandLine
