import Wayfinding.Message.Response

/-!
# Time line of a journey

Sections follow each other without a gap, either forward from a departure or backward from an
arrival. Instants are seconds in 64 bits; the time line ends at both bounds.

Main definitions:
* `Instant.shift`: an instant moved by a duration, within the bounds.
* `Section.chain`: sections that start one after the other.
* `Section.chainBack`: sections of which the last one ends at an instant.
-/

namespace Wayfinding

namespace Instant

/-- The last instant. -/
def last : Nat := UInt64.size - 1

/-- An instant moved by seconds, cut to the bounds of the time line. -/
def shift (t : UInt64) (seconds : Int) : UInt64 :=
  UInt64.ofNat (min last ((t.toNat : Int) + seconds).toNat)

end Instant

namespace Section

/-- The name of the section at an index. -/
def idOf (index : Nat) : String := s!"section_{index}"

/-- The section at an index, begun at an instant. -/
def startingAt (s : Section) (index : Nat) (clock : UInt64) : Section :=
  { s with id := idOf index, beginsAt := clock, endsAt := Instant.shift clock s.duration.toInt }

/-- The sections from an index on, of which the first begins at an instant. -/
def chainFrom (index : Nat) (clock : UInt64) : List Section → List Section
  | [] => []
  | s :: rest =>
    let s := s.startingAt index clock
    s :: chainFrom (index + 1) s.endsAt rest

/-- The sections one after the other, of which the first begins at an instant. -/
def chain (departure : UInt64) (sections : List Section) : List Section :=
  chainFrom 0 departure sections

/-- The section moved to end at an instant. -/
def endingAt (s : Section) (clock : UInt64) : Section :=
  { s with beginsAt := Instant.shift clock (-s.duration.toInt), endsAt := clock }

/-- The instant at which the first of some sections begins, or that at which they must end. -/
def startOf (sections : List Section) (arrival : UInt64) : UInt64 :=
  (sections.head?.map (·.beginsAt)).getD arrival

/-- The sections moved so that each ends where the next one begins, the last one at an instant. -/
def chainBack (arrival : UInt64) : List Section → List Section
  | [] => []
  | s :: rest =>
    let rest := chainBack arrival rest
    s.endingAt (startOf rest arrival) :: rest

end Section

namespace Journey

/-- The journey moved to arrive at an instant. -/
def arrivingAt (j : Journey) (arrival : UInt64) : Journey :=
  { j with
    departsAt := Instant.shift arrival (-j.duration.toInt)
    arrivesAt := arrival
    sections := Section.chainBack arrival j.sections }

end Journey

end Wayfinding
