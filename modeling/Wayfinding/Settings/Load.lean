import Wayfinding.Number.Integer
import Wayfinding.Settings.Document
import Wayfinding.Settings.Fault
import Wayfinding.Text.Blank
import Wayfinding.Text.Quoted

/-!
# Loading settings

Settings come from a file, if there is one, and then from variables of the environment; they are
checked last.

Main definitions:
* `SettingsError`: why there are no settings, in words.
* `Settings.override`: settings with the variables applied.
* `Settings.load`: the settings of a file and an environment.

Main statement: `valid_of_load`, by which loaded settings have no faults.
-/

namespace Wayfinding

/-- Why there are no settings. -/
inductive SettingsError where
  /-- The file cannot be read, for a reason that the system gives. -/
  | unreadable (path reason : String)
  /-- The file holds no settings. -/
  | malformed
  | badVariable (name value : String)
  | invalid (faults : List SettingsFault)
deriving DecidableEq

namespace SettingsError

/-- The error in words. -/
def message : SettingsError → String
  | unreadable path reason => s!"Cannot read {path}: {reason}"
  | malformed => "Parse error: the document holds no settings"
  | badVariable name value =>
    let quoted := Text.Quoted.encode value
    s!"Invalid value for {name}: {quoted}"
  | invalid faults => "Validation failed: " ++ ", ".intercalate (faults.map (·.message))

end SettingsError

/-- The values of the variables that are set. -/
abbrev Environment := String → Option String

namespace Environment

/-- What the name of every variable for settings starts with. -/
def nameStart : String := "STREET_ROUTER_"

/-- The natural number below a limit that a text writes, with an optional plus sign and blanks
around it. -/
def natural? (limit : Nat) (s : String) : Option Nat := Integer.natural? limit (Text.trim s.toList)

/-- The text of a variable for settings, or else what has been set before. -/
def text (env : Environment) (name old : String) : String := (env (nameStart ++ name)).getD old

/-- The number of a variable for settings, or else what has been set before. -/
def natural (env : Environment) (limit : Nat) (name : String) (old : Nat) :
    Except SettingsError Nat :=
  match env (nameStart ++ name) with
  | none => .ok old
  | some s =>
    match natural? limit s with
    | some n => .ok n
    | none => .error (.badVariable (nameStart ++ name) s)

end Environment

namespace Settings

/-- The URL of the elevation service after the environment; an empty variable removes it. -/
def overriddenUrl (env : Environment) (old : Option String) : Option String :=
  match env (Environment.nameStart ++ "ELEVATION_SERVICE_URL") with
  | none => old
  | some url => if url.isEmpty then none else some url

/-- Settings with the variables of an environment applied. -/
def override (env : Environment) (s : Settings) : Except SettingsError Settings := do
  let count ← env.natural UInt64.size "NB_THREADS" s.workers.count
  let walking ← env.natural UInt64.size "WALKING_CACHE_SIZE" s.cache.walking
  let bike ← env.natural UInt64.size "BIKE_CACHE_SIZE" s.cache.bike
  let car ← env.natural UInt64.size "CAR_CACHE_SIZE" s.cache.car
  let rent ← env.natural UInt32.size "BSS_RENT_DURATION" s.routing.bssRentDuration
  let putBack ← env.natural UInt32.size "BSS_RETURN_DURATION" s.routing.bssReturnDuration
  return { s with
    listener := { s.listener with
      bindAddress := env.text "BIND_ADDRESS" s.listener.bindAddress }
    workers := { s.workers with count := count }
    cache := ⟨walking, bike, car⟩
    routing := { s.routing with bssRentDuration := rent, bssReturnDuration := putBack }
    elevation := { s.elevation with
      serviceUrl := overriddenUrl env s.elevation.serviceUrl }
    observability := { s.observability with
      logLevel := env.text "LOG_LEVEL" s.observability.logLevel
      metricsAddress := env.text "METRICS_BINDING" s.observability.metricsAddress } }

/-- A file of settings: its path, and its text or why that cannot be read. -/
structure File where
  path : String
  text : Except String String

/-- The settings of a file, or the defaults without one. -/
def ofFile : Option File → Except SettingsError Settings
  | none => .ok {}
  | some ⟨path, .error reason⟩ => .error (.unreadable path reason)
  | some ⟨_, .ok text⟩ =>
    match ofDocument? text with
    | some s => .ok s
    | none => .error .malformed

/-- Settings that are in order. -/
def check (s : Settings) : Except SettingsError Settings :=
  if s.Valid then .ok s else .error (.invalid s.faults)

/-- The settings of a file and an environment. -/
def load (file : Option File) (env : Environment) : Except SettingsError Settings :=
  ofFile file >>= override env >>= check

theorem valid_of_check {s t : Settings} (h : s.check = .ok t) : t.Valid := by
  by_cases hs : s.Valid
  · rw [check, if_pos hs] at h
    exact Except.ok.inj h ▸ hs
  · rw [check, if_neg hs] at h
    simp only [reduceCtorEq] at h

/-- Loaded settings have no faults. -/
theorem valid_of_load {file : Option File} {env : Environment} {s : Settings}
    (h : load file env = .ok s) : s.Valid := by
  unfold load at h
  cases hr : ofFile file >>= override env with
  | error e =>
    rw [hr] at h
    simp only [bind, Except.bind, reduceCtorEq] at h
  | ok r =>
    rw [hr] at h
    simp only [bind, Except.bind] at h
    exact valid_of_check h

end Settings

end Wayfinding
