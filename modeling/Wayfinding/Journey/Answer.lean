import Wayfinding.Answer.Place
import Wayfinding.Journey.Assembly
import Wayfinding.Projection.Batch

/-!
# Answering a request for a journey

The two places of a request are projected without the cache, and the engine is asked for a path
between them. Main definition: `DirectPathRequest.answer`.
-/

namespace Wayfinding

/-- What a request for a journey asks for, once it is read. -/
structure PathQuery where
  mode : Mode
  origin : Coordinate
  destination : Coordinate
  costing : Costing
  journey : JourneyQuery

namespace DirectPathRequest

/-- Reads a request; of several mistakes the first in the order preferences, mode, origin,
destination is reported. -/
def query (r : DirectPathRequest) (routing : RoutingSettings) : Except Refusal PathQuery :=
  match r.preferences with
  | none => .error (.missingField "streetnetwork_params")
  | some preferences => do
    let mode ← Mode.ofName preferences.originMode
    let origin ← PlaceContext.required "origin" r.origin
    let destination ← PlaceContext.required "destination" r.destination
    return {
      mode := mode
      origin := origin
      destination := destination
      costing := .ofPreferences mode preferences routing
      journey := ⟨r.datetime, r.clockwise, preferences.enableInstructions⟩ }

end DirectPathRequest

namespace PathQuery

/-- Projects both places, which must be located. -/
def endpoints (q : PathQuery) (engine : Engine) : Procedure (Location × Location) := do
  let found ← Projections.ofCoordinates engine q.costing false [q.origin, q.destination]
  match found.find? q.origin, found.find? q.destination with
  | some origin, some destination => return (origin, destination)
  | _, _ => .refuse (.notProjected q.origin q.destination)

/-- Asks the engine for a path; one without maneuvers counts as none. -/
def search (q : PathQuery) (engine : Engine) (origin destination : Location) :
    Procedure (Option Path) := do
  let path ← Procedure.consult (.search origin.snapped destination.snapped)
    (engine.search origin destination q.costing)
  return path.filter fun p => !p.maneuvers.isEmpty

/-- The response to a request for a journey. -/
def respond (q : PathQuery) (engine : Engine) (elevation : Option ElevationSource) :
    Procedure Response := do
  let (origin, destination) ← q.endpoints engine
  match ← q.search engine origin destination with
  | none => return .noSolution
  | some path =>
    let journey ← q.journey.assemble path q.costing elevation
    return { kind := ResponseKind.itineraryFound.number, journeys := [journey] }

end PathQuery

namespace DirectPathRequest

/-- The mode and the response of a request for a journey. -/
def answer (r : DirectPathRequest) (engine : Engine) (routing : RoutingSettings)
    (elevation : Option ElevationSource) : Procedure (Mode × Response) := do
  let q ← .ofExcept (r.query routing)
  return (q.mode, ← q.respond engine elevation)

end DirectPathRequest

end Wayfinding
