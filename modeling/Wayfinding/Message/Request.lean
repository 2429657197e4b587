import Wayfinding.Message.Enumeration
import Wayfinding.Wire.Schema

/-!
# Requests

The messages that a client sends, and their schemas. Main definitions: `Request` and
`requestSchema`.
-/

namespace Wayfinding

open Wire (Schema)

/-- A place of a request, with the time that it takes to reach it. -/
structure PlaceContext where
  place : String := ""
  accessDuration : UInt32 := 0
deriving DecidableEq, Inhabited

/-- How the traveller wants to travel; speeds are in meters per second, and zero asks for none. -/
structure Preferences where
  originMode : String := ""
  walkingSpeed : Binary64 := 0
  bikeSpeed : Binary64 := 0
  carSpeed : Binary64 := 0
  bssSpeed : Option Binary64 := none
  taxiSpeed : Binary64 := 0
  bssRentDuration : Option UInt32 := none
  bssRentPenalty : Option UInt32 := none
  bssReturnDuration : Option UInt32 := none
  bssReturnPenalty : Option UInt32 := none
  enableInstructions : Bool := false
  bikeUseRoads : Option Binary32 := none
  bikeUseHills : Option Binary32 := none
  bikeUseFerry : Option Binary32 := none
  bikeAvoidBadSurfaces : Option Binary32 := none
deriving DecidableEq, Inhabited

/-- A request for the durations from every origin to every destination. -/
structure MatrixRequest where
  origins : List PlaceContext := []
  destinations : List PlaceContext := []
  mode : String := ""
  maxDuration : Int32 := 0
  preferences : Option Preferences := none
  walkingCoefficient : Option Binary64 := none
  bikeCoefficient : Option Binary64 := none
  bssCoefficient : Option Binary64 := none
  carCoefficient : Option Binary64 := none
deriving DecidableEq, Inhabited

/-- A request for one journey. -/
structure DirectPathRequest where
  origin : Option PlaceContext := none
  destination : Option PlaceContext := none
  datetime : UInt64 := 0
  clockwise : Bool := false
  preferences : Option Preferences := none
deriving DecidableEq, Inhabited

/-- What a client asks for. -/
structure Request where
  requestedApi : Int32 := 0
  matrix : Option MatrixRequest := none
  directPath : Option DirectPathRequest := none
deriving DecidableEq, Inhabited

/-- The fields of `PlaceContext`. -/
def placeContextSchema : Schema PlaceContext where
  blank := {}
  fields :=
    [ .plain "place" 1 .text (·.place) (fun v m => { m with place := v }),
      .plain "access_duration" 2 .uint32 (·.accessDuration)
        (fun v m => { m with accessDuration := v }) ]

/-- The fields of `Preferences`. -/
def preferencesSchema : Schema Preferences where
  blank := {}
  fields :=
    [ .plain "origin_mode" 1 .text (·.originMode) (fun v m => { m with originMode := v }),
      .plain "walking_speed" 2 .double (·.walkingSpeed)
        (fun v m => { m with walkingSpeed := v }),
      .plain "bike_speed" 3 .double (·.bikeSpeed) (fun v m => { m with bikeSpeed := v }),
      .plain "car_speed" 4 .double (·.carSpeed) (fun v m => { m with carSpeed := v }),
      .optional "bss_speed" 5 .double (·.bssSpeed) (fun v m => { m with bssSpeed := v }),
      .plain "taxi_speed" 6 .double (·.taxiSpeed) (fun v m => { m with taxiSpeed := v }),
      .optional "bss_rent_duration" 7 .uint32 (·.bssRentDuration)
        (fun v m => { m with bssRentDuration := v }),
      .optional "bss_rent_penalty" 8 .uint32 (·.bssRentPenalty)
        (fun v m => { m with bssRentPenalty := v }),
      .optional "bss_return_duration" 9 .uint32 (·.bssReturnDuration)
        (fun v m => { m with bssReturnDuration := v }),
      .optional "bss_return_penalty" 10 .uint32 (·.bssReturnPenalty)
        (fun v m => { m with bssReturnPenalty := v }),
      .plain "enable_instructions" 11 .bool (·.enableInstructions)
        (fun v m => { m with enableInstructions := v }),
      .optional "bike_use_roads" 12 .single (·.bikeUseRoads)
        (fun v m => { m with bikeUseRoads := v }),
      .optional "bike_use_hills" 13 .single (·.bikeUseHills)
        (fun v m => { m with bikeUseHills := v }),
      .optional "bike_use_ferry" 14 .single (·.bikeUseFerry)
        (fun v m => { m with bikeUseFerry := v }),
      .optional "bike_avoid_bad_surfaces" 15 .single (·.bikeAvoidBadSurfaces)
        (fun v m => { m with bikeAvoidBadSurfaces := v }) ]

/-- The fields of `MatrixRequest`. -/
def matrixRequestSchema : Schema MatrixRequest where
  blank := {}
  fields :=
    [ .repeated "origins" 1 placeContextSchema (·.origins)
        (fun v m => { m with origins := v }),
      .repeated "destinations" 2 placeContextSchema (·.destinations)
        (fun v m => { m with destinations := v }),
      .plain "mode" 3 .text (·.mode) (fun v m => { m with mode := v }),
      .plain "max_duration" 4 .int32 (·.maxDuration) (fun v m => { m with maxDuration := v }),
      .message "streetnetwork_params" 5 preferencesSchema (·.preferences)
        (fun v m => { m with preferences := v }),
      .optional "max_walking_duration_coeff" 6 .double (·.walkingCoefficient)
        (fun v m => { m with walkingCoefficient := v }),
      .optional "max_bike_duration_coeff" 7 .double (·.bikeCoefficient)
        (fun v m => { m with bikeCoefficient := v }),
      .optional "max_bss_duration_coeff" 8 .double (·.bssCoefficient)
        (fun v m => { m with bssCoefficient := v }),
      .optional "max_car_duration_coeff" 9 .double (·.carCoefficient)
        (fun v m => { m with carCoefficient := v }) ]

/-- The fields of `DirectPathRequest`. -/
def directPathRequestSchema : Schema DirectPathRequest where
  blank := {}
  fields :=
    [ .message "origin" 1 placeContextSchema (·.origin) (fun v m => { m with origin := v }),
      .message "destination" 2 placeContextSchema (·.destination)
        (fun v m => { m with destination := v }),
      .plain "datetime" 3 .uint64 (·.datetime) (fun v m => { m with datetime := v }),
      .plain "clockwise" 4 .bool (·.clockwise) (fun v m => { m with clockwise := v }),
      .message "streetnetwork_params" 5 preferencesSchema (·.preferences)
        (fun v m => { m with preferences := v }) ]

/-- The fields of `Request`. -/
def requestSchema : Schema Request where
  blank := {}
  fields :=
    [ .plain "requested_api" 1 .enumeration (·.requestedApi)
        (fun v m => { m with requestedApi := v }),
      .message "sn_routing_matrix" 2 matrixRequestSchema (·.matrix)
        (fun v m => { m with matrix := v }),
      .message "direct_path" 3 directPathRequestSchema (·.directPath)
        (fun v m => { m with directPath := v }) ]

namespace Request

/-- The operation that a request asks for; undefined numbers ask for none. -/
def api (r : Request) : Api := .ofNumber r.requestedApi

/-- The bytes of a request. -/
def encode (r : Request) : List UInt8 := requestSchema.encode r

/-- Reads a request. -/
def decode? (bytes : List UInt8) : Option Request := requestSchema.decode? bytes

end Request

end Wayfinding
