import Wayfinding.Answer.Refusal
import Wayfinding.Costing

/-!
# Search radius of a matrix

A matrix is searched no farther than a traveller gets within the requested duration. Main
definition: `MatrixRequest.radius`.
-/

namespace Wayfinding.MatrixRequest

/-- The coefficient that a request gives for a mode; taxis share that of cars. -/
def requestedCoefficient (r : MatrixRequest) : Mode → Option Binary64
  | .walking => r.walkingCoefficient
  | .bike => r.bikeCoefficient
  | .bss => r.bssCoefficient
  | .car | .taxi => r.carCoefficient

/-- The coefficient for a mode, from the request or else from the settings. -/
def coefficient (r : MatrixRequest) (mode : Mode) (routing : RoutingSettings) : Binary64 :=
  (r.requestedCoefficient mode).getD (routing.durationCoefficient.get mode)

/-- The faster of the requested speed of a mode and its average speed. -/
def fasterSpeed (mode : Mode) (costing : Costing) (routing : RoutingSettings) : Binary64 :=
  (costing.requestedSpeed mode).max (routing.averageSpeed.get mode)

/-- The distance that is covered within a duration, times a coefficient, cut to the ceiling of the
mode from above and to zero from below; a negative duration is refused. -/
def radius (mode : Mode) (maxDuration : Int32) (coefficient : Binary64) (costing : Costing)
    (routing : RoutingSettings) : Except Refusal Binary64 :=
  if maxDuration < 0 then .error (.negativeMaxDuration maxDuration.toInt)
  else
    let speed := fasterSpeed mode costing routing
    let distance := (Binary64.ofInt maxDuration.toInt * speed * coefficient).max 0
    let ceiling := routing.maxMatrixDistance.get mode
    .ok (if ceiling < distance then ceiling else distance)

end Wayfinding.MatrixRequest
