import Wayfinding.Journey.Profile
import Wayfinding.Json.Number
import Wayfinding.Json.Reader

/-!
# Reading heights

The elevation service answers with a JSON record whose member `range_height` lists a distance and a
height for each point of a shape. Main definition: `Heights.parse?`.
-/

namespace Wayfinding.Heights

open Json (Tree TextUnit)

/-- The key of the list of heights. -/
def key : List Char := "range_height".toList

/-- The value of a number. -/
def number? : Tree → Option Binary64
  | .number n => n.toBinary64?
  | _ => none

/-- A distance and a height. -/
def pair? : Tree → Option (Binary64 × Binary64)
  | .list [distance, height] => do return (← number? distance, ← number? height)
  | _ => none

/-- A list of distances and heights. -/
def points? : Tree → Option (List (Binary64 × Binary64))
  | .list items => items.mapM pair?
  | _ => none

/-- The values of a key among members that all have a proper key. -/
def valuesOf (members : List (List TextUnit × Tree)) : Option (List Tree) := do
  let members ← members.mapM fun m => (TextUnit.join? m.1).map fun k => (k, m.2)
  return (members.filter fun m => m.1 = key).map (·.2)

/-- The list of heights of a record, which must have exactly one, or of a list that holds nothing
else. -/
def field? : Tree → Option Tree
  | .list [heights] => some heights
  | .record members => do
    match ← valuesOf members with
    | [heights] => some heights
    | _ => none
  | _ => none

/-- The points of an answer. -/
def parse? (body : String) : Option (List (Binary64 × Binary64)) := do
  points? (← field? (← Tree.parse? body))

/-- The profile that an answer gives. -/
def profile (body : String) : Except ElevationFailure (List ElevationSample) :=
  match parse? body with
  | some points => .ok (ElevationSample.reduce points)
  | none => .error .malformed

end Wayfinding.Heights
