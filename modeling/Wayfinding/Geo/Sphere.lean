import Wayfinding.Geo.Coordinate

/-!
# Distances on the sphere

A `Globe` measures the distance between two coordinates and the bearing from one to the other. Main
definition: `Globe.haversine`, the sphere with the mean radius of the earth.
-/

namespace Wayfinding

/-- How distances and directions are measured. -/
structure Globe where
  /-- Meters between two coordinates. -/
  distance : Coordinate → Coordinate → Binary64
  /-- Degrees, clockwise from north. -/
  bearing : Coordinate → Coordinate → Binary64

namespace Globe

/-- The mean radius of the earth in meters. -/
def earthRadius : Float := 6371008.8

/-- Half a turn in radians. -/
def pi : Float := Float.ofBits 0x400921fb54442d18

/-- Degrees as radians. -/
def radians (degrees : Float) : Float := degrees * (pi / 180)

/-- Radians as degrees. -/
def degrees (radians : Float) : Float := radians * (180 / pi)

/-- Great-circle distance by the haversine formula. -/
def haversineDistance (origin destination : Coordinate) : Float :=
  let theta1 := radians origin.lat.toFloat
  let theta2 := radians destination.lat.toFloat
  let deltaTheta := radians (destination.lat.toFloat - origin.lat.toFloat)
  let deltaLambda := radians (destination.lon.toFloat - origin.lon.toFloat)
  let sinTheta := (deltaTheta / 2).sin
  let sinLambda := (deltaLambda / 2).sin
  let a := sinTheta * sinTheta + theta1.cos * theta2.cos * (sinLambda * sinLambda)
  earthRadius * (2 * a.sqrt.asin)

/-- The remainder of a number below two turns after whole turns are taken away. -/
def withinTurn (x : Float) : Float := if x < 360 then x else x - 360

/-- The initial bearing of the great circle from one coordinate to another. -/
def greatCircleBearing (origin destination : Coordinate) : Float :=
  let lat1 := radians origin.lat.toFloat
  let lat2 := radians destination.lat.toFloat
  let deltaLambda := radians destination.lon.toFloat - radians origin.lon.toFloat
  let y := deltaLambda.sin * lat2.cos
  let x := lat1.cos * lat2.sin - lat1.sin * lat2.cos * deltaLambda.cos
  withinTurn (degrees (Float.atan2 y x) + 360)

/-- The sphere with the mean radius of the earth. -/
def haversine : Globe where
  distance origin destination := .ofFloat (haversineDistance origin destination)
  bearing origin destination := .ofFloat (greatCircleBearing origin destination)

end Globe

end Wayfinding
