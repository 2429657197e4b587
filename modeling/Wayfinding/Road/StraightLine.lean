import Wayfinding.Geo.Sphere
import Wayfinding.Road.Engine

/-!
# The straight-line engine

An engine that travels as the crow flies, at the requested speed of the mode or else at its average
speed. Every coordinate inside the coverage is its own location, and a path is one maneuver followed
by the arrival.

Main definitions:
* `StraightLine.speed`, `StraightLine.travelTime`: how fast a mode travels, and for how long.
* `StraightLine.engine`: the engine of a coverage, routing settings and a globe.
-/

namespace Wayfinding

/-- What the straight-line engine is built from. -/
structure StraightLine where
  globe : Globe
  coverage : Option Region
  routing : RoutingSettings

namespace StraightLine

/-- The speed that is asked for, if it is positive, and else the average of the mode. -/
def speed (s : StraightLine) (costing : Costing) : Binary64 :=
  let requested := costing.requestedSpeed costing.mode
  if 0 < requested then requested else s.routing.averageSpeed.get costing.mode

/-- Whole seconds for a distance at a speed, at most what 32 bits hold. -/
def travelTime (distance speed : Binary64) : Nat := (distance / speed).round.toWord32.toNat

/-- Whether a coordinate is covered. -/
def covers (s : StraightLine) (c : Coordinate) : Bool :=
  match s.coverage with
  | some region => region.contains c
  | none => true

/-- A covered coordinate is its own location. -/
def project (s : StraightLine) (c : Coordinate) : Option Location :=
  if s.covers c then some ⟨c, c⟩ else none

/-- Whole degrees of a bearing, less than a turn. -/
def turnDegree (bearing : Binary64) : Nat :=
  if bearing.isFinite then (bearing.round.truncate % 360).toNat else 0

/-- The path between two locations. -/
def path (s : StraightLine) (origin destination : Location) (costing : Costing) : Path :=
  let distance := s.globe.distance origin.snapped destination.snapped
  let time := travelTime distance (s.speed costing)
  let depart : Maneuver :=
    { graph := costing.mode.graph
      start := 0
      lengthKm := distance / .ofNat 1000
      time := time
      turnDegree := turnDegree (s.globe.bearing origin.snapped destination.snapped)
      instruction := some "Head straight to your destination." }
  let arrive : Maneuver :=
    { graph := costing.mode.graph
      start := 1
      instruction := some "You have arrived at your destination." }
  { maneuvers := [depart, arrive]
    shape := [origin.snapped, destination.snapped]
    elapsed := time }

/-- The cell of one pair; one farther apart than the search radius is unreachable. -/
def cell (s : StraightLine) (costing : Costing) (maxDistance : Binary64)
    (source target : Location) : TimeDistance :=
  let distance := s.globe.distance source.snapped target.snapped
  if maxDistance < distance then .unreachable
  else ⟨travelTime distance (s.speed costing), distance.round.toWord32.toNat⟩

/-- The engine, which never crashes. -/
def engine (s : StraightLine) : Engine where
  project c _ := .ok (s.project c)
  search origin destination costing := .ok (some (s.path origin destination costing))
  searchMatrix sources targets costing maxDistance :=
    .ok (sources.flatMap fun source => targets.map (s.cell costing maxDistance source))

end StraightLine

end Wayfinding
