import Wayfinding.Mode
import Wayfinding.Projection.Cache
import Wayfinding.Settings.Basic

/-!
# Measurements

What the service measures about itself. A journal lists the measurements in the order in which they
were made; gauges and histograms are read off it.

Main definitions:
* `Measurement`, and `Measurement.updates`, the series that a measurement updates.
* `Journal.inFlight`: how many requests are being handled.
* `Journal.readings`: the last value of each series and how often it was updated.
-/

namespace Wayfinding

/-- What can be measured. -/
inductive Measurement where
  /-- The handling of a request began. -/
  | requestStarted
  /-- The handling of a request ended. -/
  | requestFinished
  /-- A matrix was answered for a mode. -/
  | matrixAnswered (mode : Mode)
  /-- A journey was answered for a mode. -/
  | pathAnswered (mode : Mode)
  /-- The cache of a graph was inspected. -/
  | cacheInspected (graph : Graph) (stats : CacheStats)
  /-- The service described itself. -/
  | described (workers : Nat) (cache : CacheSettings)

/-- A series of values under one name and set of labels. -/
structure Series where
  name : String
  labels : List (String × String) := []
deriving DecidableEq, Repr

namespace Series

/-- The name with its labels in braces. -/
def text (s : Series) : String :=
  let labels := s.labels.map fun l => l.1 ++ "=" ++ l.2
  s.name ++ "\x7b" ++ ",".intercalate labels ++ "\x7d"

end Series

/-- A change of one series. -/
inductive Update where
  /-- A gauge changes by an amount. -/
  | add (amount : Int)
  /-- A gauge gets a value. -/
  | set (value : Int)
  /-- A histogram takes a sample. -/
  | sample
deriving DecidableEq, Repr

/-- The version that the service reports. -/
def version : String := "0.1.0"

namespace Measurement

/-- The series that a measurement updates. -/
def updates : Measurement → List (Series × Update)
  | requestStarted => [(⟨"router_request_in_flight", []⟩, .add 1)]
  | requestFinished => [(⟨"router_request_in_flight", []⟩, .add (-1))]
  | matrixAnswered mode =>
    [(⟨"router_handle_matrix_duration_seconds", [("mode", mode.name)]⟩, .sample)]
  | pathAnswered mode =>
    [(⟨"router_direct_path_duration_seconds", [("mode", mode.name)]⟩, .sample)]
  | cacheInspected graph stats =>
    let labels := [("mode", graph.label)]
    [(⟨"router_cache_calls", labels⟩, .set stats.calls),
      (⟨"router_cache_misses", labels⟩, .set stats.misses),
      (⟨"router_cache_size", labels⟩, .set stats.size)]
  | described workers cache =>
    [(⟨"router_status",
        [("bike_cache_size", toString cache.bike), ("car_cache_size", toString cache.car),
          ("nb_threads", toString workers), ("version", version),
          ("walking_cache_size", toString cache.walking)]⟩, .set 1)]

/-- How a measurement changes the number of requests that are being handled. -/
def inFlightChange : Measurement → Int
  | requestStarted => 1
  | requestFinished => -1
  | _ => 0

end Measurement

/-- The value of a series and how often it was updated. -/
structure Reading where
  value : Int
  count : Nat
deriving DecidableEq, Repr, Inhabited

namespace Reading

/-- The reading after an update. -/
def after (r : Reading) : Update → Reading
  | .add amount => ⟨r.value + amount, r.count + 1⟩
  | .set value => ⟨value, r.count + 1⟩
  | .sample => ⟨r.value, r.count + 1⟩

end Reading

/-- Measurements, the latest first. -/
abbrev Journal := List Measurement

namespace Journal

/-- How many requests are being handled. -/
def inFlight (j : Journal) : Int := j.foldr (fun m count => m.inFlightChange + count) 0

/-- All updates, in the order in which they were made. -/
def updates (j : Journal) : List (Series × Update) := j.reverse.flatMap Measurement.updates

/-- The reading of one series. -/
def reading (j : Journal) (s : Series) : Reading :=
  (j.updates.filter fun u => u.1 = s).foldl (fun r u => r.after u.2) ⟨0, 0⟩

/-- The readings of all series, by the order of their texts. -/
def readings (j : Journal) : List (Series × Reading) :=
  let all := (j.updates.map (·.1)).eraseDups.mergeSort fun a b => decide (a.text ≤ b.text)
  all.map fun s => (s, j.reading s)

end Journal

end Wayfinding
