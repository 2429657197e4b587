import Wayfinding.Message.Response

/-!
# Refusals

Why a request cannot be answered with a result. Main definitions: `Refusal`, its text
`Refusal.message`, and the number `Refusal.failureId` under which it is reported.
-/

namespace Wayfinding

/-- The two things that a bike-share path does at stations. -/
inductive StationVisit where
  | rent
  | putBack
deriving DecidableEq, Repr, Inhabited

namespace StationVisit

/-- The word for a visit in messages. -/
def word : StationVisit → String
  | rent => "rent"
  | putBack => "return"

end StationVisit

/-- The reasons for refusing a request. -/
inductive Refusal where
  /-- A part of the request is missing. -/
  | missingField (field : String)
  /-- A place has neither of the two notations, or is out of range. -/
  | invalidPlace (place : String)
  /-- A mode has none of the known names. -/
  | unknownMode (mode : String)
  /-- The longest duration is negative. -/
  | negativeMaxDuration (duration : Int)
  /-- None of the origins is on the network. -/
  | noOrigin
  /-- None of the destinations is on the network. -/
  | noDestination
  /-- The origin or the destination of a journey is not on the network. -/
  | notProjected (origin destination : Coordinate)
  /-- A bike is taken without being returned, or returned without being taken. -/
  | inconsistentBikeShare (found missing : StationVisit)
  /-- A maneuver points outside of the shape. -/
  | shapeIndex (index length : Nat)
deriving DecidableEq

namespace Refusal

/-- What the client is told. -/
def message : Refusal → String
  | missingField field => s!"{field} is missing"
  | invalidPlace place => s!"invalid coordinate: {place}"
  | unknownMode mode => s!"unknown street network mode: {mode}"
  | negativeMaxDuration duration => s!"max_duration must be positive, got {duration}"
  | noOrigin => "origins projection failed!"
  | noDestination => "destinations projection failed!"
  | notProjected origin destination =>
    s!"Cannot project the given coords: {origin}, {destination}"
  | inconsistentBikeShare found missing =>
    "bike share path has a " ++ found.word ++ " maneuver but no matching " ++ missing.word ++
      " maneuver"
  | shapeIndex index length =>
    s!"shape index {index} out of range for a shape of {length} points"

/-- The number under which a refusal is reported. -/
def failureId : Refusal → FailureId
  | missingField _ | invalidPlace _ => .badFormat
  | noOrigin => .noOrigin
  | noDestination => .noDestination
  | notProjected _ _ => .noOriginNorDestination
  | unknownMode _ | negativeMaxDuration _ | inconsistentBikeShare _ _ | shapeIndex _ _ => .internal

/-- The response that reports a refusal. -/
def response (r : Refusal) : Response := .refusal r.failureId r.message

end Refusal

end Wayfinding
