import Wayfinding.Address.Socket
import Wayfinding.Number.Decimal
import Wayfinding.Settings.Basic
import Wayfinding.Url.Basic

/-!
# Faults of settings

Settings that can be read may still be of no use. All their faults are reported, in a fixed order.

Main definitions:
* `SettingsFault`: what may be wrong with settings, each in words.
* `Settings.faults`: everything that is wrong with settings.
* `Settings.Valid`: nothing is wrong with settings.
-/

namespace Wayfinding

/-- What may be wrong with settings. -/
inductive SettingsFault where
  | badAddress (field value : String)
  | notPositive (field : String)
  | averageAboveMaximum (mode : Mode) (average maximum : Binary64)
  | badElevationUrl (url reason : String)
  | emptyCoverage
deriving DecidableEq

namespace SettingsFault

/-- The fault in words. -/
def message : SettingsFault → String
  | badAddress field value => s!"invalid socket address for {field}: {value}"
  | notPositive field => s!"{field} must be greater than zero"
  | averageAboveMaximum mode average maximum =>
    let name := mode.name
    s!"routing.average_speed.{name} ({average}) exceeds routing.max_speed.{name} ({maximum})"
  | badElevationUrl url reason => s!"invalid elevation service url {url}: {reason}"
  | emptyCoverage => "engine.coverage is empty"

end SettingsFault

namespace Settings

/-- The fault of a socket address. -/
def addressFaults (field value : String) : List SettingsFault :=
  if (SocketAddress.parse? value).isSome then [] else [.badAddress field value]

/-- The fault of a count, which must not be zero. -/
def countFaults (field : String) (value : Nat) : List SettingsFault :=
  if value = 0 then [.notPositive field] else []

/-- The faults of numbers that must be positive; no NaN is. -/
def positiveFaults (group : String) (values : PerMode Binary64) : List SettingsFault :=
  Mode.all.flatMap fun mode =>
    if 0 < values.get mode then [] else [.notPositive (group ++ "." ++ mode.name)]

/-- The faults of average speeds, none of which may be above its maximum. -/
def speedFaults (r : RoutingSettings) : List SettingsFault :=
  Mode.all.flatMap fun mode =>
    let average := r.averageSpeed.get mode
    let maximum := r.maxSpeed.get mode
    if maximum < average then [.averageAboveMaximum mode average maximum] else []

/-- The fault of the URL of the elevation service. -/
def urlFaults (url : String) : List SettingsFault :=
  match Url.parse url with
  | .ok u =>
    if u.scheme = "http" ∨ u.scheme = "https" then []
    else [.badElevationUrl url ("unsupported scheme " ++ u.scheme)]
  | .error fault => [.badElevationUrl url fault.message]

/-- The fault of a region without any point in its interior; one with a NaN has none. -/
def coverageFaults (r : Region) : List SettingsFault :=
  if r.maxLon ≤ r.minLon ∨ r.maxLat ≤ r.minLat then [.emptyCoverage] else []

/-- Everything that is wrong with settings. -/
def faults (s : Settings) : List SettingsFault :=
  addressFaults "listener.bind_address" s.listener.bindAddress ++
  (if s.observability.metricsEnabled then
    addressFaults "observability.metrics_address" s.observability.metricsAddress
  else []) ++
  countFaults "listener.max_connections" s.listener.maxConnections ++
  countFaults "listener.max_frame_bytes" s.listener.maxFrameBytes ++
  countFaults "workers.nb_threads" s.workers.count ++
  countFaults "workers.max_pending" s.workers.maxPending ++
  positiveFaults "routing.average_speed" s.routing.averageSpeed ++
  positiveFaults "routing.max_speed" s.routing.maxSpeed ++
  positiveFaults "routing.max_matrix_distance" s.routing.maxMatrixDistance ++
  positiveFaults "routing.default_duration_coeff" s.routing.durationCoefficient ++
  speedFaults s.routing ++
  (s.elevation.serviceUrl.toList.flatMap urlFaults) ++
  (s.engine.coverage.toList.flatMap coverageFaults)

/-- Nothing is wrong with settings. -/
def Valid (s : Settings) : Prop := s.faults = []

instance (s : Settings) : Decidable s.Valid := inferInstanceAs (Decidable (_ = _))

end Settings

end Wayfinding
