import Wayfinding.Message.Response
import Wayfinding.Road.Path

/-!
# Path items

Each maneuver of a path becomes one path item. With instructions, an item tells what to do and how
far to go on, except that the last maneuver of the whole path has nowhere to go on to.

Main definitions:
* `PathItem.foldTurn`: a turn folded into the half-open turn from -180 to 180 degrees.
* `PathItem.ofManeuver`: the item of one maneuver.
* `PathItem.between`: the items of a part of a path.
-/

namespace Wayfinding

namespace Maneuver

/-- The length in meters. -/
def length (m : Maneuver) : Binary64 := m.lengthKm * .ofNat 1000

/-- The name of the street, empty when it has none. -/
def street (m : Maneuver) : String := m.streetName.getD ""

end Maneuver

namespace CycleLane

/-- The kind of cycle way that a message carries. -/
def cyclePath : CycleLane → CyclePath
  | none => .none
  | shared => .shared
  | dedicated => .dedicated
  | separated => .separated

end CycleLane

namespace PathItem

/-- A turn in degrees, above -180 and at most 180. -/
def foldTurn (turnDegree : Nat) : Int32 :=
  let degree := turnDegree % 360
  if 180 < degree then Int32.ofInt (degree - 360) else Int32.ofNat degree

/-- The time of a maneuver, at most what a message can carry. -/
def cutTime (time : Nat) : Int32 := Int32.ofNat (min time 2147483647)

/-- An instruction that says how many whole meters to go on. -/
def keepGoing (text : String) (length : Binary64) : String :=
  let meters := length.toSigned64
  s!"{text} Keep going for {meters} m."

/-- Adds what to do, and where, unless there is nothing to say. -/
def withInstruction (item : PathItem) (shape : List Coordinate) (isLast : Bool) (m : Maneuver) :
    PathItem :=
  match m.instruction.getD "" with
  | "" => item
  | text =>
    { item with
      instruction := if isLast then text else keepGoing text m.length
      instructionStart := shape[m.start]? }

/-- The item of a maneuver, where `isLast` tells whether the whole path ends with it. -/
def ofManeuver (shape : List Coordinate) (instructions isLast : Bool) (m : Maneuver) : PathItem :=
  let item : PathItem :=
    { name := m.street
      length := m.length
      duration := cutTime m.time
      direction := foldTurn m.turnDegree
      cyclePath := m.cycleLane.map fun lane => lane.cyclePath.number }
  if instructions then item.withInstruction shape isLast m else item

/-- The items of all maneuvers of a path. -/
def ofPath (path : Path) (instructions : Bool) : List PathItem :=
  path.maneuvers.mapIdx fun i m =>
    ofManeuver path.shape instructions (decide (i + 1 = path.maneuvers.length)) m

/-- The items of the maneuvers from `first` up to but not including `last`. -/
def between (path : Path) (first last : Nat) (instructions : Bool) : List PathItem :=
  ((ofPath path instructions).take last).drop first

end PathItem

end Wayfinding
