import Wayfinding.Answer.Refusal
import Wayfinding.Message.Request
import Wayfinding.Mode

/-!
# Reading a request

The parts of a request that have a notation of their own: places and modes. What cannot be read is
refused.
-/

namespace Wayfinding

namespace PlaceContext

/-- The coordinate of a place. -/
def coordinate (p : PlaceContext) : Except Refusal Coordinate :=
  match Coordinate.parse? p.place with
  | some c => .ok c
  | none => .error (.invalidPlace p.place)

/-- The coordinate of a place that a request must have. -/
def required (field : String) : Option PlaceContext → Except Refusal Coordinate
  | some p => p.coordinate
  | none => .error (.missingField field)

end PlaceContext

namespace Mode

/-- The mode with a given name. -/
def ofName (name : String) : Except Refusal Mode :=
  match ofName? name with
  | some mode => .ok mode
  | none => .error (.unknownMode name)

end Mode

end Wayfinding
