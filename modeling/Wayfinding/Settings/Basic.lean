import Wayfinding.Geo.Coordinate
import Wayfinding.Mode

/-!
# Settings

The settings of the service and their defaults. Main definition: `Settings`.
-/

namespace Wayfinding

/-- Where clients connect, and what they may send. -/
structure ListenerSettings where
  bindAddress : String := "0.0.0.0:6000"
  maxConnections : Nat := 1024
  maxFrameBytes : Nat := 16 * 1024 * 1024
deriving DecidableEq, Inhabited

/-- How many workers there are, and how the broker treats requests that wait for one. -/
structure WorkerSettings where
  count : Nat := 3
  rebuildBaseDelayMs : Nat := 10
  rebuildMaxDelayMs : Nat := 1000
  maxPending : Nat := 1024
deriving DecidableEq, Inhabited

/-- How many projections are remembered for each graph. -/
structure CacheSettings where
  walking : Nat := 50000
  bike : Nat := 50000
  car : Nat := 50000
deriving DecidableEq, Inhabited

namespace CacheSettings

/-- How many projections are remembered for a graph. -/
def capacity (s : CacheSettings) : Graph → Nat
  | .pedestrian => s.walking
  | .bicycle => s.bike
  | .drive => s.car

end CacheSettings

/-- Speeds in meters per second, distances in meters and durations in seconds. -/
structure RoutingSettings where
  /-- The speed assumed when a request asks for something slower. -/
  averageSpeed : PerMode Binary64
  /-- The largest search radius. -/
  maxMatrixDistance : PerMode Binary64
  /-- The fastest speed that a request may ask for. -/
  maxSpeed : PerMode Binary64
  /-- The search radius coefficient of a request without one. -/
  durationCoefficient : PerMode Binary64
  bssRentDuration : Nat := 120
  bssReturnDuration : Nat := 120
deriving DecidableEq

namespace RoutingSettings

/-- The routing settings that hold when none are given. -/
def default : RoutingSettings where
  averageSpeed := ⟨.ofNat 1, .ofRatio false 44 10, .ofRatio false 44 10, .ofNat 15, .ofNat 15⟩
  maxMatrixDistance :=
    ⟨.ofNat 10000, .ofNat 20000, .ofNat 20000, .ofNat 200000, .ofNat 200000⟩
  maxSpeed := ⟨.ofNat 4, .ofNat 15, .ofNat 15, .ofNat 50, .ofNat 50⟩
  durationCoefficient := .uniform (.ofNat 1)

instance : Inhabited RoutingSettings := ⟨default⟩

end RoutingSettings

/-- Where heights are looked up, if anywhere. -/
structure ElevationSettings where
  serviceUrl : Option String := none
  timeoutMs : Nat := 1000
deriving DecidableEq, Inhabited

/-- Outside of its coverage the engine finds nothing. -/
structure EngineSettings where
  coverage : Option Region := none
deriving DecidableEq, Inhabited

/-- What is published about the running service. -/
structure ObservabilitySettings where
  logLevel : String := "info"
  metricsEnabled : Bool := true
  metricsAddress : String := "0.0.0.0:8080"
deriving DecidableEq, Inhabited

/-- All settings of the service. -/
structure Settings where
  listener : ListenerSettings := {}
  workers : WorkerSettings := {}
  cache : CacheSettings := {}
  routing : RoutingSettings := .default
  elevation : ElevationSettings := {}
  engine : EngineSettings := {}
  observability : ObservabilitySettings := {}
deriving DecidableEq, Inhabited

end Wayfinding
