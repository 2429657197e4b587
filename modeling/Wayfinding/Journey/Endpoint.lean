import Wayfinding.Journey.PathItem

/-!
# Endpoints of sections

A section starts and ends at an address or at a bike-share station. Main definitions:
`Endpoint.address`, `Endpoint.station`, `Endpoint.ofGraph`, and `Endpoint.place`, the object that a
message carries.
-/

namespace Wayfinding

/-- Where a section starts or ends. -/
inductive Endpoint where
  | address (point : Coordinate) (street : String)
  | station (point : Coordinate) (street : String) (station : BikeStation)
deriving DecidableEq

namespace Endpoint

/-- The address at a coordinate, on the street of a maneuver. -/
def ofManeuver (c : Coordinate) (m : Maneuver) : Endpoint := .address c m.street

/-- The station of a maneuver; one that is not known has neither name nor number. -/
def stationOf (c : Coordinate) (m : Maneuver) : Endpoint :=
  .station c m.street (m.station.getD {})

/-- What a section on a graph runs between: on a bike stations, and addresses otherwise. -/
def ofGraph (g : Graph) (c : Coordinate) (m : Maneuver) : Endpoint :=
  match g with
  | .bicycle => stationOf c m
  | .pedestrian | .drive => ofManeuver c m

/-- The name of a coordinate: longitude and latitude with five decimal places. -/
def coordinateUri (c : Coordinate) : String :=
  String.ofList (c.lon.fixed 5 ++ ';' :: c.lat.fixed 5)

/-- The address at a coordinate. -/
def addressAt (c : Coordinate) (street : String) : Address where
  uri := coordinateUri c
  name := street
  label := street
  coord := some c

/-- The kind of all bike-share stations. -/
def stationKind : PoiKind where
  uri := "poi_type:amenity:bicycle_rental"
  name := "Bicycle Rental Station"

/-- What is known about a station, by the order of the keys. -/
def stationProperties (street : String) (station : BikeStation) : List Property :=
  [ ⟨"amenity", "bicycle_rental"⟩,
    ⟨"capacity", toString station.capacity⟩,
    ⟨"description", street⟩,
    ⟨"name", station.name⟩,
    ⟨"network", station.network⟩,
    ⟨"operator", station.operator⟩,
    ⟨"ref", station.reference⟩ ]

/-- The name of a station. -/
def stationUri (station : BikeStation) : String := s!"poi:osm:node:{station.nodeId}"

/-- The point of interest of a station. -/
def stationAt (c : Coordinate) (street : String) (station : BikeStation) : Poi where
  uri := stationUri station
  name := station.name
  label := station.name
  coord := some c
  kind := some stationKind
  properties := stationProperties street station
  address := some (addressAt c street)

/-- The coordinate of an endpoint. -/
def coordinate : Endpoint → Coordinate
  | address c _ => c
  | station c _ _ => c

/-- The object that a message carries. -/
def place : Endpoint → PlaceObject
  | address c street =>
    { name := street
      uri := coordinateUri c
      kind := PlaceKind.address.number
      address := some (addressAt c street) }
  | station c street s =>
    { name := street
      uri := stationUri s
      kind := PlaceKind.poi.number
      poi := some (stationAt c street s) }

end Endpoint

end Wayfinding
