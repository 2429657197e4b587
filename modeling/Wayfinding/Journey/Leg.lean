import Wayfinding.Answer.Procedure
import Wayfinding.Journey.Endpoint

/-!
# Legs of a path

A path is travelled in legs: one leg from its start to its end, or a bike-share trip with a walk, a
station, a ride, a station and another walk. Each leg becomes one section.

Main definitions:
* `Trip.classify`: what the marks of bike-share stations say about a path.
* `Trip.legs`: the legs of a trip.
* `Leg.toSection`: the section of a leg, without its place in time and without a profile.
-/

namespace Wayfinding

/-- How a path is travelled. -/
inductive Trip where
  /-- In one leg. -/
  | whole
  /-- On a bike that is taken at one maneuver and returned at a later one. -/
  | bikeShare (rent putBack : Nat)
deriving DecidableEq, Repr

/-- A part of a trip. -/
inductive Leg where
  /-- The maneuvers from `first` up to but not including `last`, between stations on a bike when
  `stations` is set, and between addresses otherwise. -/
  | street (first last : Nat) (stations : Bool)
  /-- The stop at the station of a maneuver. -/
  | station (index : Nat) (visit : StationVisit)
deriving DecidableEq, Repr

namespace Trip

/-- The index of the first maneuver with a station action. -/
def find? (maneuvers : List Maneuver) (action : StationAction) : Option Nat :=
  maneuvers.findIdx? fun m => m.action = action

/-- A bike that is taken must be returned later, and one that is returned must have been taken. -/
def classify (maneuvers : List Maneuver) : Except Refusal Trip :=
  match find? maneuvers .rent, find? maneuvers .putBack with
  | none, none => .ok whole
  | some rent, some putBack =>
    if rent < putBack then .ok (bikeShare rent putBack)
    else .error (.inconsistentBikeShare .rent .putBack)
  | some _, none => .error (.inconsistentBikeShare .rent .putBack)
  | none, some _ => .error (.inconsistentBikeShare .putBack .rent)

/-- How a path is travelled in a mode; only bike share heeds the marks. -/
def ofPath (mode : Mode) (path : Path) : Except Refusal Trip :=
  match mode with
  | .bss => classify path.maneuvers
  | _ => .ok whole

/-- The legs of a trip along a count of maneuvers. -/
def legs (count : Nat) : Trip → List Leg
  | whole => [.street 0 count false]
  | bikeShare rent putBack =>
    (if 0 < rent then [.street 0 rent true] else []) ++
      [.station rent .rent, .street rent putBack true, .station putBack .putBack] ++
      (if putBack + 1 < count then [.street putBack count true] else [])

end Trip

namespace Path

/-- The point of the shape at an index. -/
def point (p : Path) (index : Nat) : Except Halt Coordinate :=
  match p.shape[index]? with
  | some c => .ok c
  | none => .error (.refused (.shapeIndex index p.shape.length))

/-- The points of the shape from `first` up to but not including `last`. -/
def points (p : Path) (first last : Nat) : Except Halt (List Coordinate) :=
  if first ≤ last ∧ last ≤ p.shape.length then .ok ((p.shape.take last).drop first)
  else .error (.refused (.shapeIndex last p.shape.length))

/-- The maneuver at an index; there must be one. -/
def maneuver (p : Path) (index : Nat) : Except Halt Maneuver :=
  match p.maneuvers[index]? with
  | some m => .ok m
  | none =>
    let count := p.maneuvers.length
    .error (.crashed (.said s!"index out of bounds: the len is {count} but the index is {index}"))

/-- The maneuvers from `first` up to but not including `last`. -/
def part (p : Path) (first last : Nat) : List Maneuver := (p.maneuvers.take last).drop first

/-- Where a leg ends that takes the maneuvers up to `last`: the bound of its points, its last point,
and the maneuver that describes it. -/
def finish (p : Path) (last : Nat) : Except Halt (Nat × Coordinate × Maneuver) :=
  if p.maneuvers.length ≤ last then do
    let c ← p.point (p.shape.length - 1)
    return (p.shape.length, c, ← p.maneuver (p.maneuvers.length - 1))
  else do
    let m ← p.maneuver last
    return (m.start + 1, ← p.point m.start, m)

end Path

namespace Graph

/-- The way of moving on a graph. -/
def streetMode : Graph → StreetMode
  | pedestrian => .walking
  | bicycle => .bike
  | drive => .car

end Graph

namespace Leg

/-- A duration or a length, from zero to what a message can carry. -/
def cut (n : Int) : Int32 := Int32.ofInt (min Int32.maxValue.toInt (max 0 n))

/-- What the engine has counted at the station where a leg starts. -/
def stationCost (costs : BikeShareCosts) : StationAction → Nat
  | .rent => costs.rentDuration
  | .putBack => costs.returnDuration
  | .none => 0

/-- How long a leg takes, without the stop at the station where it starts. -/
def time (costs : BikeShareCosts) (start : Maneuver) (maneuvers : List Maneuver) : Int32 :=
  let taken : Nat := maneuvers.foldr (fun m time => m.time + time) 0
  cut ((taken : Int) - stationCost costs start.action)

/-- Whole meters of a leg. -/
def length (maneuvers : List Maneuver) : Int32 :=
  cut (Binary64.sum (maneuvers.map (·.length))).round.toSigned64

/-- Where a leg starts or ends. -/
def endpoint (stations : Bool) (g : Graph) (c : Coordinate) (m : Maneuver) : Endpoint :=
  if stations then .ofGraph g c m else .ofManeuver c m

/-- The section of a leg on the streets. -/
def streetSection (path : Path) (costs : BikeShareCosts) (instructions : Bool)
    (first last : Nat) (stations : Bool) : Except Halt Section := do
  let start ← path.maneuver first
  let (bound, target, arrival) ← path.finish last
  let coordinates ← path.points start.start bound
  let source ← path.point start.start
  let maneuvers := path.part first last
  let duration := time costs start maneuvers
  let length := length maneuvers
  return {
    kind := SectionKind.street.number
    origin := some (endpoint stations start.graph source start).place
    destination := some (endpoint stations start.graph target arrival).place
    duration := duration
    length := length
    street := some {
      duration := duration
      length := length
      mode := start.graph.streetMode.number
      items := PathItem.between path first last instructions
      coordinates := coordinates } }

/-- What to do at a station. -/
def stationInstruction : StationVisit → String
  | .rent => "Rent a bike from bike share station."
  | .putBack => "Return the bike to the bike share station."

/-- The section of a stop at a station: from the address to the station to take a bike, and back
to return it. -/
def stationSection (path : Path) (costs : BikeShareCosts) (index : Nat) (visit : StationVisit) :
    Except Halt Section := do
  let m ← path.maneuver index
  let c ← path.point m.start
  let address := (Endpoint.ofManeuver c m).place
  let station := (Endpoint.stationOf c m).place
  let (kind, seconds, origin, destination) := match visit with
    | .rent => (SectionKind.rent, costs.rentDuration, address, station)
    | .putBack => (SectionKind.putBack, costs.returnDuration, station, address)
  return {
    kind := kind.number
    origin := some origin
    destination := some destination
    duration := cut seconds
    street := some {
      duration := cut seconds
      mode := m.graph.streetMode.number
      items := [{ duration := cut seconds, instruction := stationInstruction visit }]
      coordinates := [c] } }

/-- The section of a leg. -/
def toSection (path : Path) (costs : BikeShareCosts) (instructions : Bool) :
    Leg → Except Halt Section
  | street first last stations => streetSection path costs instructions first last stations
  | station index visit => stationSection path costs index visit

end Leg

end Wayfinding
