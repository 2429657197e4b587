import Wayfinding.Settings.Basic
import Wayfinding.Toml.Reader

/-!
# Settings in a document

A document of settings has a table for each group of them. What it leaves out keeps its default,
and what it holds beyond the settings is ignored; a value of the wrong type makes it unusable.

Main definitions:
* `Settings.Reading`: a way to read a value.
* `Settings.ofDocument?`: the settings of a document.
-/

namespace Wayfinding.Settings

open Toml (Value)

/-- A way to read a value, which may have the wrong type. -/
abbrev Reading (α : Type) := Value → Option α

namespace Reading

/-- A natural number. -/
def natural : Reading Nat
  | .integer n => if 0 ≤ n then some n.toNat else none
  | _ => none

/-- A natural number of 32 bits. -/
def natural32 : Reading Nat := fun v => (natural v).filter fun n => decide (n < UInt32.size)

/-- A real number, which may be written as an integer. -/
def real : Reading Binary64
  | .float x => some x
  | .integer n => some (.ofInt n)
  | _ => none

/-- A text. -/
def text : Reading String
  | .text s => some s
  | _ => none

/-- A truth value. -/
def bool : Reading Bool
  | .bool b => some b
  | _ => none

/-- The members of a group, which may be given as a list of its values in the order of the keys. A
date has members of its own, none of which belongs to any group. -/
def members (keys : List String) : Reading (List (String × Value))
  | .table ms => some ms
  | .list items => some (keys.zip items)
  | .moment => some []
  | _ => none

/-- The value of a key, or its default where there is none. -/
def orElse {α : Type} (ms : List (String × Value)) (key : String) (read : Reading α)
    (default : α) : Option α :=
  match ms.lookup key with
  | none => some default
  | some v => read v

/-- The value of a key that must not be left out. -/
def required {α : Type} (ms : List (String × Value)) (key : String) (read : Reading α) :
    Option α :=
  ms.lookup key >>= read

/-- One number for each mode; none may be left out. -/
def perMode : Reading (PerMode Binary64) := fun v => do
  let ms ← members ["walking", "bike", "bss", "car", "taxi"] v
  return ⟨← required ms "walking" real, ← required ms "bike" real, ← required ms "bss" real,
    ← required ms "car" real, ← required ms "taxi" real⟩

/-- A region; none of its sides may be left out. -/
def region : Reading Region := fun v => do
  let ms ← members ["min_lon", "min_lat", "max_lon", "max_lat"] v
  return ⟨← required ms "min_lon" real, ← required ms "min_lat" real,
    ← required ms "max_lon" real, ← required ms "max_lat" real⟩

/-- Where clients connect. -/
def listener : Reading ListenerSettings := fun v => do
  let base : ListenerSettings := {}
  let ms ← members ["bind_address", "max_connections", "max_frame_bytes"] v
  return ⟨← orElse ms "bind_address" text base.bindAddress,
    ← orElse ms "max_connections" natural base.maxConnections,
    ← orElse ms "max_frame_bytes" natural base.maxFrameBytes⟩

/-- How many workers there are. -/
def workers : Reading WorkerSettings := fun v => do
  let base : WorkerSettings := {}
  let ms ← members ["nb_threads", "rebuild_base_delay_ms", "rebuild_max_delay_ms",
    "max_pending"] v
  return ⟨← orElse ms "nb_threads" natural base.count,
    ← orElse ms "rebuild_base_delay_ms" natural base.rebuildBaseDelayMs,
    ← orElse ms "rebuild_max_delay_ms" natural base.rebuildMaxDelayMs,
    ← orElse ms "max_pending" natural base.maxPending⟩

/-- How many projections are remembered. -/
def cache : Reading CacheSettings := fun v => do
  let base : CacheSettings := {}
  let ms ← members ["walking", "bike", "car"] v
  return ⟨← orElse ms "walking" natural base.walking, ← orElse ms "bike" natural base.bike,
    ← orElse ms "car" natural base.car⟩

/-- Speeds, distances and durations. -/
def routing : Reading RoutingSettings := fun v => do
  let base := RoutingSettings.default
  let ms ← members ["average_speed", "max_matrix_distance", "max_speed",
    "default_duration_coeff", "bss_rent_duration", "bss_return_duration"] v
  return ⟨← orElse ms "average_speed" perMode base.averageSpeed,
    ← orElse ms "max_matrix_distance" perMode base.maxMatrixDistance,
    ← orElse ms "max_speed" perMode base.maxSpeed,
    ← orElse ms "default_duration_coeff" perMode base.durationCoefficient,
    ← orElse ms "bss_rent_duration" natural32 base.bssRentDuration,
    ← orElse ms "bss_return_duration" natural32 base.bssReturnDuration⟩

/-- Where heights are looked up. -/
def elevation : Reading ElevationSettings := fun v => do
  let base : ElevationSettings := {}
  let ms ← members ["service_url", "timeout_ms"] v
  return ⟨← orElse ms "service_url" (fun v => (text v).map some) base.serviceUrl,
    ← orElse ms "timeout_ms" natural base.timeoutMs⟩

/-- What the engine covers. -/
def engine : Reading EngineSettings := fun v => do
  let ms ← members ["coverage"] v
  return ⟨← orElse ms "coverage" (fun v => (region v).map some) none⟩

/-- What is published. -/
def observability : Reading ObservabilitySettings := fun v => do
  let base : ObservabilitySettings := {}
  let ms ← members ["log_level", "metrics_enabled", "metrics_address"] v
  return ⟨← orElse ms "log_level" text base.logLevel,
    ← orElse ms "metrics_enabled" bool base.metricsEnabled,
    ← orElse ms "metrics_address" text base.metricsAddress⟩

/-- All settings. -/
def settings : Reading Settings := fun v => do
  let base : Settings := {}
  let ms ← members ["listener", "workers", "cache", "routing", "elevation", "engine",
    "observability"] v
  return ⟨← orElse ms "listener" listener base.listener,
    ← orElse ms "workers" workers base.workers,
    ← orElse ms "cache" cache base.cache,
    ← orElse ms "routing" routing base.routing,
    ← orElse ms "elevation" elevation base.elevation,
    ← orElse ms "engine" engine base.engine,
    ← orElse ms "observability" observability base.observability⟩

end Reading

/-- The settings of a document. -/
def ofDocument? (s : String) : Option Settings := Toml.parse? s >>= Reading.settings

end Wayfinding.Settings
