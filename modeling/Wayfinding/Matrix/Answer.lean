import Wayfinding.Answer.Place
import Wayfinding.Matrix.Layout
import Wayfinding.Matrix.Radius
import Wayfinding.Projection.Batch

/-!
# Answering a matrix request

A matrix request is read, its places are projected, and the engine is asked once for all pairs that
are located. Main definition: `MatrixRequest.answer`.
-/

namespace Wayfinding

/-- What a matrix request asks for, once it is read. -/
structure MatrixQuery where
  mode : Mode
  sources : List Coordinate
  targets : List Coordinate
  costing : Costing
  radius : Binary64
  maxDuration : Nat

namespace MatrixRequest

/-- The places of a list, or the refusal of the first that cannot be read. -/
def places (contexts : List PlaceContext) : Except Refusal (List Coordinate) :=
  contexts.mapM PlaceContext.coordinate

/-- Reads a request; of several mistakes the first in the order mode, origins, destinations,
duration is reported. -/
def query (r : MatrixRequest) (routing : RoutingSettings) : Except Refusal MatrixQuery := do
  let mode ← Mode.ofName r.mode
  let sources ← places r.origins
  let targets ← places r.destinations
  let costing := Costing.ofPreferences mode (r.preferences.getD {}) routing
  let radius ← radius mode r.maxDuration (r.coefficient mode routing) costing routing
  return ⟨mode, sources, targets, costing, radius, r.maxDuration.toInt.natAbs⟩

end MatrixRequest

namespace MatrixQuery

/-- Projects a list of coordinates, of which at least one must be located. A single coordinate is
projected without the cache. -/
def project (q : MatrixQuery) (engine : Engine) (cs : List Coordinate) (whenEmpty : Refusal) :
    Procedure Projections := do
  let found ← Projections.ofCoordinates engine q.costing (decide (1 < cs.length)) cs
  if found.isEmpty then .refuse whenEmpty else return found

/-- Asks the engine for the pairs of located sources and targets. -/
def search (q : MatrixQuery) (engine : Engine) (sources targets : List Location) :
    Procedure (List TimeDistance) :=
  .consult (.searchMatrix (sources.map (·.snapped)) (targets.map (·.snapped)) q.radius)
    (engine.searchMatrix sources targets q.costing q.radius)

/-- The matrix of a request. -/
def matrix (q : MatrixQuery) (engine : Engine) : Procedure Matrix := do
  let sources ← q.project engine q.sources .noOrigin
  let targets ← q.project engine q.targets .noDestination
  let results ← q.search engine (q.sources.filterMap sources.find?)
    (q.targets.filterMap targets.find?)
  return .assemble (q.sources.map sources.has) (q.targets.map targets.has) results q.maxDuration

end MatrixQuery

/-- Publishes the state of the caches. -/
def inspectCaches : Procedure Unit :=
  .inspect fun stats =>
    Graph.all.foldr (fun g next => .measure (.cacheInspected g (stats g)) next) (pure ())

namespace MatrixRequest

/-- The mode and the response of a matrix request. -/
def answer (r : MatrixRequest) (engine : Engine) (routing : RoutingSettings) :
    Procedure (Mode × Response) := do
  let q ← .ofExcept (r.query routing)
  let matrix ← q.matrix engine
  inspectCaches
  return (q.mode, { matrix := some matrix })

end MatrixRequest

end Wayfinding
