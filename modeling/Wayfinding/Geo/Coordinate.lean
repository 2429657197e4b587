import Wayfinding.Number.Decimal
import Wayfinding.Text.Blank

/-!
# Coordinates

A coordinate is a longitude and a latitude in degrees. Two coordinates are equal exactly when the
words of both numbers are, so a coordinate is a lookup key of its own.

Main definitions:
* `Coordinate.parse?`: reads the two notations of a place, `<lon>;<lat>` and `coord:<lon>:<lat>`.
* `Coordinate.display`: writes the first of them.
* `Coordinate.InRange`: longitude and latitude within their bounds.
* `Region.contains`: membership in a box with its border.
-/

namespace Wayfinding

/-- A point given by its longitude and latitude in degrees. -/
structure Coordinate where
  lon : Binary64
  lat : Binary64
deriving DecidableEq, Hashable, Inhabited

namespace Coordinate

/-- The bounds of a longitude. -/
def lonBound : Binary64 := .ofNat 180

/-- The bounds of a latitude. -/
def latBound : Binary64 := .ofNat 90

/-- Longitude and latitude are numbers within their bounds, the bounds included. -/
def InRange (c : Coordinate) : Prop :=
  Binary64.between (-lonBound) lonBound c.lon = true ∧
    Binary64.between (-latBound) latBound c.lat = true

instance (c : Coordinate) : Decidable c.InRange := inferInstanceAs (Decidable (_ ∧ _))

/-- What stands before and after the first occurrence of a character. -/
def splitOnce (separator : Char) (cs : List Char) : Option (List Char × List Char) :=
  match cs.dropWhile (· != separator) with
  | [] => none
  | _ :: rest => some (cs.takeWhile (· != separator), rest)

/-- The word that opens the notation with colons. -/
def tag : List Char := ['c', 'o', 'o', 'r', 'd', ':']

/-- The two number texts of a place. -/
def components? (place : List Char) : Option (List Char × List Char) :=
  if tag.isPrefixOf place then splitOnce ':' (place.drop tag.length)
  else splitOnce ';' place

/-- Reads `<lon>;<lat>` or `coord:<lon>:<lat>`, with blanks around each number; places out of range
are refused. -/
def parse? (place : String) : Option Coordinate := do
  let (lon, lat) ← components? place.toList
  let c : Coordinate := ⟨← Binary64.parse? (Text.trim lon), ← Binary64.parse? (Text.trim lat)⟩
  if c.InRange then some c else none

/-- Longitude and latitude, separated by a semicolon. -/
def displayChars (c : Coordinate) : List Char :=
  c.lon.positional ++ ';' :: c.lat.positional

/-- Longitude and latitude as text. -/
def display (c : Coordinate) : String := String.ofList c.displayChars

instance : ToString Coordinate := ⟨display⟩

end Coordinate

/-- A box of longitudes and latitudes. -/
structure Region where
  minLon : Binary64
  minLat : Binary64
  maxLon : Binary64
  maxLat : Binary64
deriving DecidableEq, Inhabited

namespace Region

/-- Whether a coordinate lies in the box, its border included. -/
def contains (r : Region) (c : Coordinate) : Bool :=
  Binary64.between r.minLon r.maxLon c.lon && Binary64.between r.minLat r.maxLat c.lat

end Region

end Wayfinding
