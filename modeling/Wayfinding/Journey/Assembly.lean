import Wayfinding.Journey.Leg
import Wayfinding.Journey.Profile
import Wayfinding.Journey.Timeline
import Wayfinding.Journey.Totals

/-!
# Assembling a journey

A journey is assembled from the legs of a path: each leg becomes a section, sections on foot or on a
bike get their elevation profile, the sections are put on the time line, and their totals are added
up. Main definition: `JourneyQuery.assemble`.
-/

namespace Wayfinding

/-- What a request says about the journey that it asks for. -/
structure JourneyQuery where
  /-- The departure, or the arrival when the journey is planned backward. -/
  datetime : UInt64
  /-- Whether the journey is planned forward from its departure. -/
  clockwise : Bool
  instructions : Bool
deriving DecidableEq

namespace Section

/-- Whether a section has a profile: one on the streets, on foot or on a bike. -/
def hasProfile (s : Section) (part : StreetPart) : Bool :=
  match SectionKind.ofNumber s.kind, StreetMode.ofNumber part.mode with
  | .street, .walking | .street, .bike | .street, .bss => true
  | _, _ => false

/-- Looks up the profile of a section; when the lookup fails there is none. -/
def withProfile (elevation : Option ElevationSource) (s : Section) : Procedure Section :=
  match elevation, s.street with
  | some lookup, some part =>
    if s.hasProfile part then
      .call (.elevations part.coordinates) <| pure
        { s with
          street := some
            { part with elevations := (lookup part.coordinates).toOption.getD [] } }
    else pure s
  | _, _ => pure s

end Section

namespace JourneyQuery

/-- The sections of some legs, in their order. -/
def sections (q : JourneyQuery) (path : Path) (costs : BikeShareCosts)
    (elevation : Option ElevationSource) : List Leg → Procedure (List Section)
  | [] => pure []
  | leg :: legs => do
    let s ← match leg.toSection path costs q.instructions with
      | .ok s => s.withProfile elevation
      | .error halt => .halt halt
    return s :: (← sections q path costs elevation legs)

/-- The journey that departs at the requested instant. -/
def departing (q : JourneyQuery) (path : Path) (sections : List Section) : Journey where
  duration := Leg.cut path.elapsed
  requestedAt := q.datetime
  departsAt := q.datetime
  arrivesAt := Instant.shift q.datetime path.elapsed
  sections := Section.chain q.datetime sections
  sectionCount := UInt32.ofNat sections.length

/-- The journey at the requested instant, without its totals. -/
def journey (q : JourneyQuery) (path : Path) (sections : List Section) : Journey :=
  let forward := q.departing path sections
  if q.clockwise then forward else forward.arrivingAt q.datetime

/-- The journey along a path, which breaks off when its totals overflow. -/
def assemble (q : JourneyQuery) (path : Path) (costing : Costing)
    (elevation : Option ElevationSource) : Procedure Journey := do
  let trip ← .ofExcept (Trip.ofPath costing.mode path)
  let sections ← q.sections path costing.bikeShare elevation (trip.legs path.maneuvers.length)
  .risk (q.journey path sections).announced

end JourneyQuery

end Wayfinding
