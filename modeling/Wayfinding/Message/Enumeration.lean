/-!
# Enumerations of the messages

Messages carry enumerations as numbers, among which undefined ones may occur. Each enumeration has
its numbers and a reading of any number.
-/

namespace Wayfinding

/-- The operations that a request may ask for. -/
inductive Api where
  | unknown
  | matrix
  | directPath
deriving DecidableEq, Repr, Inhabited

namespace Api

/-- The number on the wire. -/
def number : Api → Int32
  | unknown => 0
  | matrix => 1
  | directPath => 2

/-- All values, in the order of their numbers. -/
def all : List Api :=
  [unknown, matrix, directPath]

/-- The value of a number; undefined numbers give the first value. -/
def ofNumber (n : Int32) : Api :=
  (all.find? fun a => a.number = n).getD unknown

/-- A value is found under its number. -/
theorem ofNumber_number (a : Api) : ofNumber a.number = a := by
  cases a <;> rfl

end Api

/-- Whether a response carries an itinerary. -/
inductive ResponseKind where
  | unknown
  | itineraryFound
  | noSolution
deriving DecidableEq, Repr, Inhabited

namespace ResponseKind

/-- The number on the wire. -/
def number : ResponseKind → Int32
  | unknown => 0
  | itineraryFound => 1
  | noSolution => 2

/-- All values, in the order of their numbers. -/
def all : List ResponseKind :=
  [unknown, itineraryFound, noSolution]

/-- The value of a number; undefined numbers give the first value. -/
def ofNumber (n : Int32) : ResponseKind :=
  (all.find? fun a => a.number = n).getD unknown

/-- A value is found under its number. -/
theorem ofNumber_number (a : ResponseKind) : ofNumber a.number = a := by
  cases a <;> rfl

end ResponseKind

/-- The kinds of failure. -/
inductive FailureId where
  | unknown
  | invalidRequest
  | internal
  | noOrigin
  | noDestination
  | noOriginNorDestination
  | badFormat
deriving DecidableEq, Repr, Inhabited

namespace FailureId

/-- The number on the wire. -/
def number : FailureId → Int32
  | unknown => 0
  | invalidRequest => 1
  | internal => 2
  | noOrigin => 3
  | noDestination => 4
  | noOriginNorDestination => 5
  | badFormat => 6

/-- All values, in the order of their numbers. -/
def all : List FailureId :=
  [unknown, invalidRequest, internal, noOrigin, noDestination, noOriginNorDestination, badFormat]

/-- The value of a number; undefined numbers give the first value. -/
def ofNumber (n : Int32) : FailureId :=
  (all.find? fun a => a.number = n).getD unknown

/-- A value is found under its number. -/
theorem ofNumber_number (a : FailureId) : ofNumber a.number = a := by
  cases a <;> rfl

end FailureId

/-- Whether a pair is reached within the requested duration. -/
inductive Reachability where
  | unknown
  | reached
  | unreached
deriving DecidableEq, Repr, Inhabited

namespace Reachability

/-- The number on the wire. -/
def number : Reachability → Int32
  | unknown => 0
  | reached => 1
  | unreached => 2

/-- All values, in the order of their numbers. -/
def all : List Reachability :=
  [unknown, reached, unreached]

/-- The value of a number; undefined numbers give the first value. -/
def ofNumber (n : Int32) : Reachability :=
  (all.find? fun a => a.number = n).getD unknown

/-- A value is found under its number. -/
theorem ofNumber_number (a : Reachability) : ofNumber a.number = a := by
  cases a <;> rfl

end Reachability

/-- The kinds of section. -/
inductive SectionKind where
  | unknown
  | street
  | rent
  | putBack
  | transfer
  | crowFly
deriving DecidableEq, Repr, Inhabited

namespace SectionKind

/-- The number on the wire. -/
def number : SectionKind → Int32
  | unknown => 0
  | street => 1
  | rent => 2
  | putBack => 3
  | transfer => 4
  | crowFly => 5

/-- All values, in the order of their numbers. -/
def all : List SectionKind :=
  [unknown, street, rent, putBack, transfer, crowFly]

/-- The value of a number; undefined numbers give the first value. -/
def ofNumber (n : Int32) : SectionKind :=
  (all.find? fun a => a.number = n).getD unknown

/-- A value is found under its number. -/
theorem ofNumber_number (a : SectionKind) : ofNumber a.number = a := by
  cases a <;> rfl

end SectionKind

/-- The kinds of transfer. -/
inductive TransferKind where
  | walking
  | stayIn
  | guaranteed
deriving DecidableEq, Repr, Inhabited

namespace TransferKind

/-- The number on the wire. -/
def number : TransferKind → Int32
  | walking => 0
  | stayIn => 1
  | guaranteed => 2

/-- All values, in the order of their numbers. -/
def all : List TransferKind :=
  [walking, stayIn, guaranteed]

/-- The value of a number; undefined numbers give the first value. -/
def ofNumber (n : Int32) : TransferKind :=
  (all.find? fun a => a.number = n).getD walking

/-- A value is found under its number. -/
theorem ofNumber_number (a : TransferKind) : ofNumber a.number = a := by
  cases a <;> rfl

end TransferKind

/-- The ways of moving on the streets. -/
inductive StreetMode where
  | walking
  | bike
  | car
  | bss
  | ridesharing
  | carNoPark
  | taxi
deriving DecidableEq, Repr, Inhabited

namespace StreetMode

/-- The number on the wire. -/
def number : StreetMode → Int32
  | walking => 0
  | bike => 1
  | car => 2
  | bss => 3
  | ridesharing => 4
  | carNoPark => 5
  | taxi => 6

/-- All values, in the order of their numbers. -/
def all : List StreetMode :=
  [walking, bike, car, bss, ridesharing, carNoPark, taxi]

/-- The value of a number; undefined numbers give the first value. -/
def ofNumber (n : Int32) : StreetMode :=
  (all.find? fun a => a.number = n).getD walking

/-- A value is found under its number. -/
theorem ofNumber_number (a : StreetMode) : ofNumber a.number = a := by
  cases a <;> rfl

end StreetMode

/-- The kinds of cycle way. -/
inductive CyclePath where
  | none
  | shared
  | dedicated
  | separated
deriving DecidableEq, Repr, Inhabited

namespace CyclePath

/-- The number on the wire. -/
def number : CyclePath → Int32
  | none => 0
  | shared => 1
  | dedicated => 2
  | separated => 3

/-- All values, in the order of their numbers. -/
def all : List CyclePath :=
  [none, shared, dedicated, separated]

/-- The value of a number; undefined numbers give the first value. -/
def ofNumber (n : Int32) : CyclePath :=
  (all.find? fun a => a.number = n).getD none

/-- A value is found under its number. -/
theorem ofNumber_number (a : CyclePath) : ofNumber a.number = a := by
  cases a <;> rfl

end CyclePath

/-- What a place object describes. -/
inductive PlaceKind where
  | unknown
  | address
  | poi
deriving DecidableEq, Repr, Inhabited

namespace PlaceKind

/-- The number on the wire. -/
def number : PlaceKind → Int32
  | unknown => 0
  | address => 1
  | poi => 2

/-- All values, in the order of their numbers. -/
def all : List PlaceKind :=
  [unknown, address, poi]

/-- The value of a number; undefined numbers give the first value. -/
def ofNumber (n : Int32) : PlaceKind :=
  (all.find? fun a => a.number = n).getD unknown

/-- A value is found under its number. -/
theorem ofNumber_number (a : PlaceKind) : ofNumber a.number = a := by
  cases a <;> rfl

end PlaceKind

end Wayfinding
