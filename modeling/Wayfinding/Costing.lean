import Wayfinding.Message.Request
import Wayfinding.Settings.Basic

/-!
# Costing

What a request asks of the engine: the mode, the speeds cut to the configured ceilings, and the
costs of bike-share stations.

Main definitions:
* `Costing.clampSpeed`: no speed is negative, above its ceiling or a NaN.
* `Costing.ofPreferences`: the costing of a request.
* `Costing.requestedSpeed`: the speed that is asked for a mode, or zero.
-/

namespace Wayfinding

/-- Meters per second; zero asks for no particular speed. -/
structure Speeds where
  walking : Binary64
  bike : Binary64
  car : Binary64
  taxi : Binary64
deriving DecidableEq, Inhabited

/-- Seconds spent at bike-share stations. -/
structure BikeShareCosts where
  rentDuration : Nat
  rentPenalty : Nat
  returnDuration : Nat
  returnPenalty : Nat
deriving DecidableEq, Inhabited

/-- How a cyclist weighs roads against each other. -/
structure BikePreferences where
  useRoads : Binary32
  useHills : Binary32
  useFerry : Binary32
  avoidBadSurfaces : Binary32
deriving DecidableEq, Inhabited

/-- The parameters of every engine call that is made for a request. -/
structure Costing where
  mode : Mode
  speeds : Speeds
  bikeShare : BikeShareCosts
  bike : BikePreferences
deriving DecidableEq, Inhabited

namespace BikePreferences

/-- One half in single precision. -/
def half : Binary32 := ⟨0x3f000000⟩

/-- One quarter in single precision. -/
def quarter : Binary32 := ⟨0x3e800000⟩

/-- The preferences that a request asks for; what it leaves out is one half, and one quarter for
bad surfaces. -/
def ofPreferences (p : Preferences) : BikePreferences where
  useRoads := p.bikeUseRoads.getD half
  useHills := p.bikeUseHills.getD half
  useFerry := p.bikeUseFerry.getD half
  avoidBadSurfaces := p.bikeAvoidBadSurfaces.getD quarter

end BikePreferences

namespace BikeShareCosts

/-- The costs that a request asks for; the durations that it leaves out are those of the settings,
and the penalties zero. -/
def ofPreferences (p : Preferences) (routing : RoutingSettings) : BikeShareCosts where
  rentDuration := (p.bssRentDuration.map UInt32.toNat).getD routing.bssRentDuration
  rentPenalty := (p.bssRentPenalty.map UInt32.toNat).getD 0
  returnDuration := (p.bssReturnDuration.map UInt32.toNat).getD routing.bssReturnDuration
  returnPenalty := (p.bssReturnPenalty.map UInt32.toNat).getD 0

end BikeShareCosts

namespace Costing

/-- A requested speed, cut to its ceiling from above and to zero from below. -/
def clampSpeed (requested ceiling : Binary64) : Binary64 :=
  if ceiling < requested then ceiling else requested.max 0

/-- The speed that is asked for a bike: in bike-share mode the one for bike share, if there is
one. -/
def bikeSpeed (mode : Mode) (p : Preferences) : Binary64 :=
  match mode, p.bssSpeed with
  | .bss, some speed => speed
  | _, _ => p.bikeSpeed

/-- The ceiling for a bike: in bike-share mode the one for bike share. -/
def bikeCeiling (mode : Mode) (routing : RoutingSettings) : Binary64 :=
  match mode with
  | .bss => routing.maxSpeed.bss
  | _ => routing.maxSpeed.bike

/-- The costing of a request. -/
def ofPreferences (mode : Mode) (p : Preferences) (routing : RoutingSettings) : Costing where
  mode := mode
  speeds :=
    { walking := clampSpeed p.walkingSpeed routing.maxSpeed.walking
      bike := clampSpeed (bikeSpeed mode p) (bikeCeiling mode routing)
      car := clampSpeed p.carSpeed routing.maxSpeed.car
      taxi := clampSpeed p.taxiSpeed routing.maxSpeed.taxi }
  bikeShare := .ofPreferences p routing
  bike := .ofPreferences p

/-- The speed that is asked for a mode, zero when none is. -/
def requestedSpeed (c : Costing) : Mode → Binary64
  | .walking => c.speeds.walking
  | .bike | .bss => c.speeds.bike
  | .car => c.speeds.car
  | .taxi => c.speeds.taxi

end Costing

end Wayfinding
