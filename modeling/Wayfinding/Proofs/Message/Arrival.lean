import Wayfinding.Message.Request
import Wayfinding.Message.Response
import Wayfinding.Proofs.Wire.Fields

/-!
# Requests and responses arrive

A request or a response is read back from the bytes that it is written as, with everything that it
holds: present optional fields stay present, also with a blank value, absent ones stay absent, and
undefined numbers of enumerations are kept. Only the sign of a zero is lost, where a double has no
presence of its own.

Main definitions: `Request.arrived` and `Response.arrived`, the messages with such zeros unsigned.
Main statement: `messages_arrive`.
-/

namespace Wayfinding

open Wire (Schema Passes)

/-! ### Parts of requests -/

/-- A place arrives as it is. -/
lemma placeContext_survives : placeContextSchema.Survives id :=
  .of_passes (by decide) fun _ => .plain .text rfl <| .plain .uint32 rfl .nil

/-- Preferences as they arrive. -/
def Preferences.arrived (p : Preferences) : Preferences :=
  { p with
    walkingSpeed := p.walkingSpeed.plainZero
    bikeSpeed := p.bikeSpeed.plainZero
    carSpeed := p.carSpeed.plainZero
    taxiSpeed := p.taxiSpeed.plainZero }

/-- Preferences arrive as they were sent, but for negative zeros. -/
lemma preferences_survives : preferencesSchema.Survives Preferences.arrived :=
  .of_passes (by decide) fun _ =>
    .plain .text rfl <|
    .plain .double rfl <|
    .plain .double rfl <|
    .plain .double rfl <|
    .optional .double rfl <|
    .plain .double rfl <|
    .optional .uint32 rfl <|
    .optional .uint32 rfl <|
    .optional .uint32 rfl <|
    .optional .uint32 rfl <|
    .plain .bool rfl <|
    .optional .single rfl <|
    .optional .single rfl <|
    .optional .single rfl <|
    .optional .single rfl .nil

/-- A matrix request as it arrives. -/
def MatrixRequest.arrived (r : MatrixRequest) : MatrixRequest :=
  { r with preferences := r.preferences.map Preferences.arrived }

/-- A request for a matrix arrives as it was sent, but for negative zeros. -/
lemma matrixRequest_survives : matrixRequestSchema.Survives MatrixRequest.arrived :=
  .of_passes (by decide) fun _ =>
    .repeatedAsIs placeContext_survives ⟨rfl, fun _ => rfl, fun _ _ => rfl⟩ <|
    .repeatedAsIs placeContext_survives ⟨rfl, fun _ => rfl, fun _ _ => rfl⟩ <|
    .plain .text rfl <|
    .plain .int32 rfl <|
    .message preferences_survives rfl rfl <|
    .optional .double rfl <|
    .optional .double rfl <|
    .optional .double rfl <|
    .optional .double rfl .nil

/-- A request for a journey as it arrives. -/
def DirectPathRequest.arrived (r : DirectPathRequest) : DirectPathRequest :=
  { r with preferences := r.preferences.map Preferences.arrived }

/-- A request for a path arrives as it was sent, but for negative zeros. -/
lemma directPathRequest_survives : directPathRequestSchema.Survives DirectPathRequest.arrived :=
  .of_passes (by decide) fun _ =>
    .messageAsIs placeContext_survives rfl rfl <|
    .messageAsIs placeContext_survives rfl rfl <|
    .plain .uint64 rfl <|
    .plain .bool rfl <|
    .message preferences_survives rfl rfl .nil

/-- A request as it arrives. -/
def Request.arrived (r : Request) : Request :=
  { r with
    matrix := r.matrix.map MatrixRequest.arrived
    directPath := r.directPath.map DirectPathRequest.arrived }

/-- Requests arrive as they were sent, but for negative zeros. -/
lemma request_survives : requestSchema.Survives Request.arrived :=
  .of_passes (by decide) fun _ =>
    .plain .enumeration rfl <|
    .message matrixRequest_survives rfl rfl <|
    .message directPathRequest_survives rfl rfl .nil

/-! ### Places of responses -/

/-- A coordinate as it arrives. -/
def Coordinate.arrived (c : Coordinate) : Coordinate where
  lon := c.lon.plainZero
  lat := c.lat.plainZero

/-- A coordinate arrives as it was sent, but for negative zeros. -/
lemma coordinate_survives : coordinateSchema.Survives Coordinate.arrived :=
  .of_passes (by decide) fun _ => .plain .double rfl <| .plain .double rfl .nil

/-- An address as it arrives. -/
def Address.arrived (a : Address) : Address := { a with coord := a.coord.map Coordinate.arrived }

/-- An address arrives as it was sent, but for negative zeros. -/
lemma address_survives : addressSchema.Survives Address.arrived :=
  .of_passes (by decide) fun _ =>
    .plain .text rfl <|
    .plain .text rfl <|
    .plain .text rfl <|
    .message coordinate_survives rfl rfl .nil

/-- The kind of a point of interest arrives as it was sent. -/
lemma poiKind_survives : poiKindSchema.Survives id :=
  .of_passes (by decide) fun _ => .plain .text rfl <| .plain .text rfl .nil

/-- A property arrives as it was sent. -/
lemma property_survives : propertySchema.Survives id :=
  .of_passes (by decide) fun _ => .plain .text rfl <| .plain .text rfl .nil

/-- A point of interest as it arrives. -/
def Poi.arrived (p : Poi) : Poi :=
  { p with
    coord := p.coord.map Coordinate.arrived
    address := p.address.map Address.arrived }

/-- Points of interest arrive as they were sent, but for negative zeros. -/
lemma poi_survives : poiSchema.Survives Poi.arrived :=
  .of_passes (by decide) fun _ =>
    .plain .text rfl <|
    .plain .text rfl <|
    .plain .text rfl <|
    .message coordinate_survives rfl rfl <|
    .messageAsIs poiKind_survives rfl rfl <|
    .repeatedAsIs property_survives ⟨rfl, fun _ => rfl, fun _ _ => rfl⟩ <|
    .message address_survives rfl rfl .nil

/-- A place as it arrives. -/
def PlaceObject.arrived (p : PlaceObject) : PlaceObject :=
  { p with
    address := p.address.map Address.arrived
    poi := p.poi.map Poi.arrived }

/-- A place arrives as it was sent, but for negative zeros. -/
lemma placeObject_survives : placeObjectSchema.Survives PlaceObject.arrived :=
  .of_passes (by decide) fun _ =>
    .plain .text rfl <|
    .plain .text rfl <|
    .plain .enumeration rfl <|
    .message address_survives rfl rfl <|
    .message poi_survives rfl rfl .nil

/-! ### Sections and journeys -/

/-- A directive as it arrives. -/
def PathItem.arrived (i : PathItem) : PathItem :=
  { i with
    length := i.length.plainZero
    instructionStart := i.instructionStart.map Coordinate.arrived }

/-- An item of a path arrives as it was sent, but for negative zeros. -/
lemma pathItem_survives : pathItemSchema.Survives PathItem.arrived :=
  .of_passes (by decide) fun _ =>
    .plain .text rfl <|
    .plain .double rfl <|
    .plain .int32 rfl <|
    .plain .int32 rfl <|
    .plain .text rfl <|
    .message coordinate_survives rfl rfl <|
    .optional .enumeration rfl .nil

/-- A height as it arrives. -/
def ElevationSample.arrived (e : ElevationSample) : ElevationSample :=
  { e with
    distance := e.distance.plainZero
    height := e.height.plainZero }

/-- A sample of heights arrives as it was sent, but for negative zeros. -/
lemma elevationSample_survives : elevationSampleSchema.Survives ElevationSample.arrived :=
  .of_passes (by decide) fun _ =>
    .plain .double rfl <|
    .plain .double rfl <|
    .plain .uint32 rfl .nil

/-- What a section does on the streets, as it arrives. -/
def StreetPart.arrived (p : StreetPart) : StreetPart :=
  { p with
    items := p.items.map PathItem.arrived
    coordinates := p.coordinates.map Coordinate.arrived
    elevations := p.elevations.map ElevationSample.arrived }

/-- A part on streets arrives as it was sent, but for negative zeros. -/
lemma streetPart_survives : streetPartSchema.Survives StreetPart.arrived :=
  .of_passes (by decide) fun _ =>
    .plain .int32 rfl <|
    .plain .int32 rfl <|
    .plain .enumeration rfl <|
    .repeated pathItem_survives ⟨rfl, fun _ => rfl, fun _ _ => rfl⟩ <|
    .repeated coordinate_survives ⟨rfl, fun _ => rfl, fun _ _ => rfl⟩ <|
    .repeated elevationSample_survives ⟨rfl, fun _ => rfl, fun _ _ => rfl⟩ .nil

/-- A section as it arrives. -/
def Section.arrived (s : Section) : Section :=
  { s with
    origin := s.origin.map PlaceObject.arrived
    destination := s.destination.map PlaceObject.arrived
    street := s.street.map StreetPart.arrived }

/-- A section arrives as it was sent, but for negative zeros. -/
lemma section_survives : sectionSchema.Survives Section.arrived :=
  .of_passes (by decide) fun _ =>
    .plain .text rfl <|
    .plain .enumeration rfl <|
    .message placeObject_survives rfl rfl <|
    .message placeObject_survives rfl rfl <|
    .plain .uint64 rfl <|
    .plain .uint64 rfl <|
    .plain .int32 rfl <|
    .plain .int32 rfl <|
    .message streetPart_survives rfl rfl <|
    .plain .enumeration rfl .nil

/-- Durations arrive as they were sent. -/
lemma durations_survives : durationsSchema.Survives id :=
  .of_passes (by decide) fun _ =>
    .plain .int32 rfl <|
    .plain .int32 rfl <|
    .plain .int32 rfl <|
    .plain .int32 rfl <|
    .plain .int32 rfl <|
    .plain .int32 rfl .nil

/-- Distances arrive as they were sent. -/
lemma distances_survives : distancesSchema.Survives id :=
  .of_passes (by decide) fun _ =>
    .plain .int32 rfl <|
    .plain .int32 rfl <|
    .plain .int32 rfl <|
    .plain .int32 rfl <|
    .plain .int32 rfl .nil

/-- A journey as it arrives. -/
def Journey.arrived (j : Journey) : Journey :=
  { j with sections := j.sections.map Section.arrived }

/-- Journeys arrive as they were sent, but for negative zeros. -/
lemma journey_survives : journeySchema.Survives Journey.arrived :=
  .of_passes (by decide) fun _ =>
    .plain .int32 rfl <|
    .plain .int32 rfl <|
    .plain .uint64 rfl <|
    .plain .uint64 rfl <|
    .plain .uint64 rfl <|
    .repeated section_survives ⟨rfl, fun _ => rfl, fun _ _ => rfl⟩ <|
    .plain .uint32 rfl <|
    .messageAsIs durations_survives rfl rfl <|
    .messageAsIs distances_survives rfl rfl .nil

/-! ### Matrices and responses -/

/-- The cells of a matrix arrive as they were sent. -/
lemma matrixCell_survives : matrixCellSchema.Survives id :=
  .of_passes (by decide) fun _ => .plain .int32 rfl <| .plain .enumeration rfl .nil

/-- The rows of a matrix arrive as they were sent. -/
lemma matrixRow_survives : matrixRowSchema.Survives id :=
  .of_passes (by decide) fun _ =>
    .repeatedAsIs matrixCell_survives ⟨rfl, fun _ => rfl, fun _ _ => rfl⟩ .nil

/-- A matrix arrives as it was sent. -/
lemma matrix_survives : matrixSchema.Survives id :=
  .of_passes (by decide) fun _ =>
    .repeatedAsIs matrixRow_survives ⟨rfl, fun _ => rfl, fun _ _ => rfl⟩ .nil

/-- A failure arrives as it was sent. -/
lemma failure_survives : failureSchema.Survives id :=
  .of_passes (by decide) fun _ => .plain .enumeration rfl <| .plain .text rfl .nil

/-- A response as it arrives. -/
def Response.arrived (r : Response) : Response :=
  { r with journeys := r.journeys.map Journey.arrived }

/-- Responses arrive as they were sent, but for negative zeros. -/
lemma response_survives : responseSchema.Survives Response.arrived :=
  .of_passes (by decide) fun _ =>
    .plain .enumeration rfl <|
    .messageAsIs failure_survives rfl rfl <|
    .repeated journey_survives ⟨rfl, fun _ => rfl, fun _ _ => rfl⟩ <|
    .messageAsIs matrix_survives rfl rfl .nil

/-- Every request and every response whose length fits into 64 bits is read back from its bytes,
field by field and floats by their bits; only a negative zero in a double without presence comes
back as a positive one. -/
theorem messages_arrive :
    (∀ r : Request, r.encode.length < UInt64.size → Request.decode? r.encode = some r.arrived) ∧
      ∀ r : Response, r.encode.length < UInt64.size →
        Response.decode? r.encode = some r.arrived :=
  ⟨fun r h => request_survives r _ h, fun r h => response_survives r _ h⟩

/-- A request with blank values that are present, undefined and negative numbers, and two negative
zeros. -/
def sparseErrand : Request where
  requestedApi := -7
  matrix := some
    { origins := [{ place := "" }, { place := "é;1", accessDuration := 300 }]
      mode := "bss"
      maxDuration := -1
      preferences := some { walkingSpeed := -0, bssSpeed := some (-0), bssRentDuration := some 0 }
      walkingCoefficient := some 0 }
  directPath := some {}

/-- Of the two zeros only the one without a presence of its own loses its sign. -/
theorem messages_arrive_sparse : sparseErrand.encode.length < UInt64.size ∧
    Request.decode? sparseErrand.encode =
      some { sparseErrand with
        matrix := some
          { origins := [{ place := "" }, { place := "é;1", accessDuration := 300 }]
            mode := "bss"
            maxDuration := -1
            preferences := some
              { walkingSpeed := 0, bssSpeed := some (-0), bssRentDuration := some 0 }
            walkingCoefficient := some 0 } } := by
  have hsize : sparseErrand.encode.length < UInt64.size := by decide +kernel
  exact ⟨hsize, messages_arrive.1 sparseErrand hsize⟩

end Wayfinding
