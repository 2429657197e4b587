import Wayfinding.Transport.Client

/-!
# Admission of clients

The acceptor takes a free slot and then waits for a client. A connection holds the slot of its
client until it has ended. Meanwhile it is counted and given a number, is registered for replies,
and undoes both in the opposite order.

Main definitions:
* `Tally`: how many connections are counted.
* `Admission.step?`: what the acceptor and the connections do.
* `Admission.Reachable`: the states that a run can come to.
-/

namespace Wayfinding

/-- How many connections are counted. -/
structure Tally where
  active : Nat := 0
deriving DecidableEq, Repr

namespace Tally

/-- One connection more. -/
def enter (t : Tally) : Tally := ⟨t.active + 1⟩

/-- One connection less, if there is any. -/
def leave (t : Tally) : Tally := ⟨t.active - 1⟩

end Tally

/-- A connection that holds a slot, by how far it has come. -/
inductive Guest where
  | accepted
  /-- It is counted and has a number. -/
  | counted (client : ClientId)
  /-- It is registered for replies, and served. -/
  | registered (client : ClientId)
  /-- It is no longer registered. -/
  | removed (client : ClientId)
  /-- It is no longer counted. -/
  | departed
deriving DecidableEq

namespace Guest

/-- The number of a connection, while it has one. -/
def client? : Guest → Option ClientId
  | counted c | registered c | removed c => some c
  | accepted | departed => none

end Guest

/-- The slots and the connections that hold them. -/
structure Admission where
  /-- How many slots nobody holds. -/
  free : Nat
  /-- Whether the acceptor holds a slot for the client that it waits for. -/
  reserved : Bool := false
  guests : List Guest := []
  tally : Tally := {}
  registry : Registry := {}
  /-- The number of the next client. -/
  nextClient : UInt64 := 1
deriving DecidableEq

namespace Admission

/-- What may happen. -/
inductive Event where
  /-- The acceptor takes a free slot. -/
  | reserve
  /-- A client arrives, and its connection takes over the slot. -/
  | arrive
  /-- Accepting fails or is given up, and the slot is free again. -/
  | abandon
  /-- The connection at an index goes on. -/
  | advance (index : Nat)
deriving DecidableEq, Repr

/-- A connection goes on: it is counted, registered, removed, no longer counted, and gone. -/
def advance (s : Admission) (index : Nat) : Guest → Admission
  | .accepted =>
    { s with
      guests := s.guests.set index (.counted ⟨s.nextClient⟩)
      tally := s.tally.enter
      nextClient := s.nextClient + 1 }
  | .counted c =>
    { s with guests := s.guests.set index (.registered c), registry := s.registry.register c }
  | .registered c =>
    { s with guests := s.guests.set index (.removed c), registry := s.registry.remove c }
  | .removed c =>
    { s with
      guests := s.guests.set index .departed
      tally := s.tally.leave
      registry := s.registry.hangUp c }
  | .departed => { s with guests := s.guests.eraseIdx index, free := s.free + 1 }

/-- The state after an event, if the event can happen. -/
def step? (s : Admission) : Event → Option Admission
  | .reserve =>
    if !s.reserved ∧ 0 < s.free then some { s with free := s.free - 1, reserved := true }
    else none
  | .arrive =>
    if s.reserved then some { s with reserved := false, guests := s.guests ++ [.accepted] }
    else none
  | .abandon =>
    if s.reserved then some { s with reserved := false, free := s.free + 1 } else none
  | .advance i => (s.guests[i]?).map (s.advance i)

/-- The states that a run with a number of slots can come to. -/
inductive Reachable (slots : Nat) : Admission → Prop where
  | start : Reachable slots { free := slots }
  | step {s t : Admission} {e : Event} :
    Reachable slots s → s.step? e = some t → Reachable slots t

/-- How many slots are held. -/
def held (s : Admission) : Nat := s.guests.length + if s.reserved then 1 else 0

/-- A connection that goes on holds its slot, or gives it back. -/
theorem free_add_held_advance {s : Admission} {i : Nat} {g : Guest} (h : s.guests[i]? = some g) :
    (s.advance i g).free + (s.advance i g).held = s.free + s.held := by
  have hi : i < s.guests.length := (List.getElem?_eq_some_iff.1 h).1
  cases g <;> grind [advance, held]

/-- No slot is lost or made up. -/
theorem free_add_held {slots : Nat} {s : Admission} (h : Reachable slots s) :
    s.free + s.held = slots := by
  induction h with
  | start => rfl
  | @step s t e _ he ih =>
    cases e with
    | advance i =>
      simp only [step?, Option.map_eq_some_iff] at he
      obtain ⟨g, hg, rfl⟩ := he
      rw [free_add_held_advance hg]
      exact ih
    | _ => grind [step?, held]

end Admission

end Wayfinding
