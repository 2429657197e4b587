import Wayfinding.Costing
import Wayfinding.Crash
import Wayfinding.Road.Path

/-!
# Routing engines

An engine is a function of its arguments. Each of its calls finds something, finds nothing, or
crashes. Main definition: `Engine`.
-/

namespace Wayfinding

/-- A routing engine. -/
structure Engine where
  /-- The location of a coordinate on the network. -/
  project : Coordinate → Costing → Except Crash (Option Location)
  /-- A path between two locations. -/
  search : Location → Location → Costing → Except Crash (Option Path)
  /-- The cells of all pairs, those of the first source first. -/
  searchMatrix : List Location → List Location → Costing → Binary64 →
    Except Crash (List TimeDistance)

end Wayfinding
