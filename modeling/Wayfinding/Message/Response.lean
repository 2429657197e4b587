import Wayfinding.Geo.Coordinate
import Wayfinding.Message.Enumeration
import Wayfinding.Wire.Schema

/-!
# Responses

The messages that the service answers, and their schemas. Main definitions: `Response`,
`responseSchema`, and the two responses without a result, `Response.refusal` and
`Response.noSolution`.
-/

namespace Wayfinding

open Wire (Schema)

/-- Why a request has no result. -/
structure Failure where
  id : Int32 := 0
  message : String := ""
deriving DecidableEq, Inhabited

/-- A point on a street. -/
structure Address where
  uri : String := ""
  name : String := ""
  label : String := ""
  coord : Option Coordinate := none
deriving DecidableEq, Inhabited

/-- The kind of a point of interest. -/
structure PoiKind where
  uri : String := ""
  name : String := ""
deriving DecidableEq, Inhabited

/-- A named text of a point of interest. -/
structure Property where
  key : String := ""
  value : String := ""
deriving DecidableEq, Inhabited

/-- A point of interest. -/
structure Poi where
  uri : String := ""
  name : String := ""
  label : String := ""
  coord : Option Coordinate := none
  kind : Option PoiKind := none
  properties : List Property := []
  address : Option Address := none
deriving DecidableEq, Inhabited

/-- Where a section starts or ends. -/
structure PlaceObject where
  name : String := ""
  uri : String := ""
  kind : Int32 := 0
  address : Option Address := none
  poi : Option Poi := none
deriving DecidableEq, Inhabited

/-- One directive of a section; its length is in meters and its direction in degrees. -/
structure PathItem where
  name : String := ""
  length : Binary64 := 0
  duration : Int32 := 0
  direction : Int32 := 0
  instruction : String := ""
  instructionStart : Option Coordinate := none
  cyclePath : Option Int32 := none
deriving DecidableEq, Inhabited

/-- The height at a distance along a shape. -/
structure ElevationSample where
  distance : Binary64 := 0
  height : Binary64 := 0
  index : UInt32 := 0
deriving DecidableEq, Inhabited

/-- What a section does on the streets. -/
structure StreetPart where
  duration : Int32 := 0
  length : Int32 := 0
  mode : Int32 := 0
  items : List PathItem := []
  coordinates : List Coordinate := []
  elevations : List ElevationSample := []
deriving DecidableEq, Inhabited

/-- A part of a journey that is travelled in one way. -/
structure Section where
  id : String := ""
  kind : Int32 := 0
  origin : Option PlaceObject := none
  destination : Option PlaceObject := none
  beginsAt : UInt64 := 0
  endsAt : UInt64 := 0
  duration : Int32 := 0
  length : Int32 := 0
  street : Option StreetPart := none
  transfer : Int32 := 0
deriving DecidableEq, Inhabited

/-- Seconds in total and by mode. -/
structure Durations where
  total : Int32 := 0
  walking : Int32 := 0
  bike : Int32 := 0
  car : Int32 := 0
  ridesharing : Int32 := 0
  taxi : Int32 := 0
deriving DecidableEq, Inhabited

/-- Meters by mode. -/
structure Distances where
  walking : Int32 := 0
  bike : Int32 := 0
  car : Int32 := 0
  ridesharing : Int32 := 0
  taxi : Int32 := 0
deriving DecidableEq, Inhabited

/-- A journey from its departure to its arrival. -/
structure Journey where
  duration : Int32 := 0
  transferCount : Int32 := 0
  requestedAt : UInt64 := 0
  departsAt : UInt64 := 0
  arrivesAt : UInt64 := 0
  sections : List Section := []
  sectionCount : UInt32 := 0
  durations : Option Durations := none
  distances : Option Distances := none
deriving DecidableEq, Inhabited

/-- The duration of one pair in seconds, and whether it counts as reached. -/
structure MatrixCell where
  duration : Int32 := 0
  status : Int32 := 0
deriving DecidableEq, Inhabited

/-- One row of durations. -/
structure MatrixRow where
  cells : List MatrixCell := []
deriving DecidableEq, Inhabited

/-- The durations that a request asked for. -/
structure Matrix where
  rows : List MatrixRow := []
deriving DecidableEq, Inhabited

/-- What a client is answered. -/
structure Response where
  kind : Int32 := 0
  failure : Option Failure := none
  journeys : List Journey := []
  matrix : Option Matrix := none
deriving DecidableEq, Inhabited

/-- The fields of `Failure`. -/
def failureSchema : Schema Failure where
  blank := {}
  fields :=
    [ .plain "id" 1 .enumeration (·.id) (fun v m => { m with id := v }),
      .plain "message" 2 .text (·.message) (fun v m => { m with message := v }) ]

/-- The fields of a coordinate. -/
def coordinateSchema : Schema Coordinate where
  blank := ⟨0, 0⟩
  fields :=
    [ .plain "lon" 1 .double (·.lon) (fun v m => { m with lon := v }),
      .plain "lat" 2 .double (·.lat) (fun v m => { m with lat := v }) ]

/-- The fields of `Address`. -/
def addressSchema : Schema Address where
  blank := {}
  fields :=
    [ .plain "uri" 1 .text (·.uri) (fun v m => { m with uri := v }),
      .plain "name" 2 .text (·.name) (fun v m => { m with name := v }),
      .plain "label" 3 .text (·.label) (fun v m => { m with label := v }),
      .message "coord" 4 coordinateSchema (·.coord) (fun v m => { m with coord := v }) ]

/-- The fields of `PoiKind`. -/
def poiKindSchema : Schema PoiKind where
  blank := {}
  fields :=
    [ .plain "uri" 1 .text (·.uri) (fun v m => { m with uri := v }),
      .plain "name" 2 .text (·.name) (fun v m => { m with name := v }) ]

/-- The fields of `Property`. -/
def propertySchema : Schema Property where
  blank := {}
  fields :=
    [ .plain "key" 1 .text (·.key) (fun v m => { m with key := v }),
      .plain "value" 2 .text (·.value) (fun v m => { m with value := v }) ]

/-- The fields of `Poi`. -/
def poiSchema : Schema Poi where
  blank := {}
  fields :=
    [ .plain "uri" 1 .text (·.uri) (fun v m => { m with uri := v }),
      .plain "name" 2 .text (·.name) (fun v m => { m with name := v }),
      .plain "label" 3 .text (·.label) (fun v m => { m with label := v }),
      .message "coord" 4 coordinateSchema (·.coord) (fun v m => { m with coord := v }),
      .message "poi_type" 5 poiKindSchema (·.kind) (fun v m => { m with kind := v }),
      .repeated "properties" 6 propertySchema (·.properties)
        (fun v m => { m with properties := v }),
      .message "address" 7 addressSchema (·.address) (fun v m => { m with address := v }) ]

/-- The fields of `PlaceObject`. -/
def placeObjectSchema : Schema PlaceObject where
  blank := {}
  fields :=
    [ .plain "name" 1 .text (·.name) (fun v m => { m with name := v }),
      .plain "uri" 2 .text (·.uri) (fun v m => { m with uri := v }),
      .plain "embedded_type" 3 .enumeration (·.kind) (fun v m => { m with kind := v }),
      .message "address" 4 addressSchema (·.address) (fun v m => { m with address := v }),
      .message "poi" 5 poiSchema (·.poi) (fun v m => { m with poi := v }) ]

/-- The fields of `PathItem`. -/
def pathItemSchema : Schema PathItem where
  blank := {}
  fields :=
    [ .plain "name" 1 .text (·.name) (fun v m => { m with name := v }),
      .plain "length" 2 .double (·.length) (fun v m => { m with length := v }),
      .plain "duration" 3 .int32 (·.duration) (fun v m => { m with duration := v }),
      .plain "direction" 4 .int32 (·.direction) (fun v m => { m with direction := v }),
      .plain "instruction" 5 .text (·.instruction) (fun v m => { m with instruction := v }),
      .message "instruction_start_coordinate" 6 coordinateSchema (·.instructionStart)
        (fun v m => { m with instructionStart := v }),
      .optional "cycle_path_type" 7 .enumeration (·.cyclePath)
        (fun v m => { m with cyclePath := v }) ]

/-- The fields of `ElevationSample`. -/
def elevationSampleSchema : Schema ElevationSample where
  blank := {}
  fields :=
    [ .plain "distance_from_start" 1 .double (·.distance)
        (fun v m => { m with distance := v }),
      .plain "elevation" 2 .double (·.height) (fun v m => { m with height := v }),
      .plain "geojson_index" 3 .uint32 (·.index) (fun v m => { m with index := v }) ]

/-- The fields of `StreetPart`. -/
def streetPartSchema : Schema StreetPart where
  blank := {}
  fields :=
    [ .plain "duration" 1 .int32 (·.duration) (fun v m => { m with duration := v }),
      .plain "length" 2 .int32 (·.length) (fun v m => { m with length := v }),
      .plain "mode" 3 .enumeration (·.mode) (fun v m => { m with mode := v }),
      .repeated "path_items" 4 pathItemSchema (·.items) (fun v m => { m with items := v }),
      .repeated "coordinates" 5 coordinateSchema (·.coordinates)
        (fun v m => { m with coordinates := v }),
      .repeated "elevations" 6 elevationSampleSchema (·.elevations)
        (fun v m => { m with elevations := v }) ]

/-- The fields of `Section`. -/
def sectionSchema : Schema Section where
  blank := {}
  fields :=
    [ .plain "id" 1 .text (·.id) (fun v m => { m with id := v }),
      .plain "section_type" 2 .enumeration (·.kind) (fun v m => { m with kind := v }),
      .message "origin" 3 placeObjectSchema (·.origin) (fun v m => { m with origin := v }),
      .message "destination" 4 placeObjectSchema (·.destination)
        (fun v m => { m with destination := v }),
      .plain "begin_date_time" 5 .uint64 (·.beginsAt) (fun v m => { m with beginsAt := v }),
      .plain "end_date_time" 6 .uint64 (·.endsAt) (fun v m => { m with endsAt := v }),
      .plain "duration" 7 .int32 (·.duration) (fun v m => { m with duration := v }),
      .plain "length" 8 .int32 (·.length) (fun v m => { m with length := v }),
      .message "street_network" 9 streetPartSchema (·.street)
        (fun v m => { m with street := v }),
      .plain "transfer_type" 10 .enumeration (·.transfer)
        (fun v m => { m with transfer := v }) ]

/-- The fields of `Durations`. -/
def durationsSchema : Schema Durations where
  blank := {}
  fields :=
    [ .plain "total" 1 .int32 (·.total) (fun v m => { m with total := v }),
      .plain "walking" 2 .int32 (·.walking) (fun v m => { m with walking := v }),
      .plain "bike" 3 .int32 (·.bike) (fun v m => { m with bike := v }),
      .plain "car" 4 .int32 (·.car) (fun v m => { m with car := v }),
      .plain "ridesharing" 5 .int32 (·.ridesharing) (fun v m => { m with ridesharing := v }),
      .plain "taxi" 6 .int32 (·.taxi) (fun v m => { m with taxi := v }) ]

/-- The fields of `Distances`. -/
def distancesSchema : Schema Distances where
  blank := {}
  fields :=
    [ .plain "walking" 1 .int32 (·.walking) (fun v m => { m with walking := v }),
      .plain "bike" 2 .int32 (·.bike) (fun v m => { m with bike := v }),
      .plain "car" 3 .int32 (·.car) (fun v m => { m with car := v }),
      .plain "ridesharing" 4 .int32 (·.ridesharing) (fun v m => { m with ridesharing := v }),
      .plain "taxi" 5 .int32 (·.taxi) (fun v m => { m with taxi := v }) ]

/-- The fields of `Journey`. -/
def journeySchema : Schema Journey where
  blank := {}
  fields :=
    [ .plain "duration" 1 .int32 (·.duration) (fun v m => { m with duration := v }),
      .plain "nb_transfers" 2 .int32 (·.transferCount)
        (fun v m => { m with transferCount := v }),
      .plain "requested_date_time" 3 .uint64 (·.requestedAt)
        (fun v m => { m with requestedAt := v }),
      .plain "departure_date_time" 4 .uint64 (·.departsAt)
        (fun v m => { m with departsAt := v }),
      .plain "arrival_date_time" 5 .uint64 (·.arrivesAt)
        (fun v m => { m with arrivesAt := v }),
      .repeated "sections" 6 sectionSchema (·.sections) (fun v m => { m with sections := v }),
      .plain "nb_sections" 7 .uint32 (·.sectionCount)
        (fun v m => { m with sectionCount := v }),
      .message "durations" 8 durationsSchema (·.durations)
        (fun v m => { m with durations := v }),
      .message "distances" 9 distancesSchema (·.distances)
        (fun v m => { m with distances := v }) ]

/-- The fields of `MatrixCell`. -/
def matrixCellSchema : Schema MatrixCell where
  blank := {}
  fields :=
    [ .plain "duration" 1 .int32 (·.duration) (fun v m => { m with duration := v }),
      .plain "routing_status" 2 .enumeration (·.status) (fun v m => { m with status := v }) ]

/-- The fields of `MatrixRow`. -/
def matrixRowSchema : Schema MatrixRow where
  blank := {}
  fields :=
    [ .repeated "routing_response" 1 matrixCellSchema (·.cells)
        (fun v m => { m with cells := v }) ]

/-- The fields of `Matrix`. -/
def matrixSchema : Schema Matrix where
  blank := {}
  fields :=
    [ .repeated "rows" 1 matrixRowSchema (·.rows) (fun v m => { m with rows := v }) ]

/-- The fields of `Response`. -/
def responseSchema : Schema Response where
  blank := {}
  fields :=
    [ .plain "response_type" 1 .enumeration (·.kind) (fun v m => { m with kind := v }),
      .message "error" 2 failureSchema (·.failure) (fun v m => { m with failure := v }),
      .repeated "journeys" 3 journeySchema (·.journeys) (fun v m => { m with journeys := v }),
      .message "sn_routing_matrix" 4 matrixSchema (·.matrix)
        (fun v m => { m with matrix := v }) ]

namespace Response

/-- The bytes of a response. -/
def encode (r : Response) : List UInt8 := responseSchema.encode r

/-- Reads a response. -/
def decode? (bytes : List UInt8) : Option Response := responseSchema.decode? bytes

/-- The response that gives the reason for having no result. -/
def refusal (id : FailureId) (message : String) : Response :=
  { kind := ResponseKind.noSolution.number
    failure := some { id := id.number, message := message } }

/-- The response when there is no path. -/
def noSolution : Response := { kind := ResponseKind.noSolution.number }

end Response

end Wayfinding
