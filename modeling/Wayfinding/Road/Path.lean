import Wayfinding.Geo.Coordinate
import Wayfinding.Mode

/-!
# Paths on the road network

What the engine finds: locations on the network, paths as lists of maneuvers along a shape, and the
cells of a matrix search.
-/

namespace Wayfinding

/-- A coordinate with the point of the network that is closest to it. -/
structure Location where
  input : Coordinate
  snapped : Coordinate
deriving DecidableEq, Inhabited

/-- What a maneuver does at a bike-share station. -/
inductive StationAction where
  | none
  | rent
  | putBack
deriving DecidableEq, Repr, Inhabited

/-- The cycle infrastructure at the start of a maneuver. -/
inductive CycleLane where
  | none
  | shared
  | dedicated
  | separated
deriving DecidableEq, Repr, Inhabited

/-- A bike-share station. -/
structure BikeStation where
  nodeId : Nat := 0
  name : String := ""
  capacity : Nat := 0
  network : String := ""
  operator : String := ""
  reference : String := ""
deriving DecidableEq, Inhabited

/-- One directive of a path. -/
structure Maneuver where
  graph : Graph := .pedestrian
  action : StationAction := .none
  /-- The index in the shape at which the maneuver starts. -/
  start : Nat := 0
  lengthKm : Binary64 := 0
  /-- Seconds, with what the station costs. -/
  time : Nat := 0
  turnDegree : Nat := 0
  streetName : Option String := none
  instruction : Option String := none
  station : Option BikeStation := none
  cycleLane : Option CycleLane := none
deriving DecidableEq, Inhabited

/-- A path from its first maneuver to its last. -/
structure Path where
  maneuvers : List Maneuver := []
  shape : List Coordinate := []
  /-- Seconds for the whole path. -/
  elapsed : Nat := 0
deriving DecidableEq, Inhabited

/-- The time that stands for a pair without a path. -/
def unreachableTime : Nat := 2147483647

/-- Seconds and meters of one pair. -/
structure TimeDistance where
  time : Nat
  distance : Nat
deriving DecidableEq, Repr, Inhabited

namespace TimeDistance

/-- The cell of a pair without a path. -/
def unreachable : TimeDistance := ⟨unreachableTime, 0⟩

end TimeDistance

end Wayfinding
