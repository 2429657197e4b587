/-!
# Channels

A channel queues items between a sender and a receiver. When one side closes it, what is queued can
still be received as long as the receiver is open.

Main definitions: `Channel.send` and `Channel.receive`.
-/

namespace Wayfinding

/-- A queue between two sides. -/
structure Channel (α : Type) where
  /-- The items that were sent and not yet received, the oldest first. -/
  queued : List α := []
  /-- How many items can be queued, if that is limited. -/
  capacity : Option Nat := none
  senderOpen : Bool := true
  receiverOpen : Bool := true
deriving DecidableEq, Inhabited

/-- What becomes of an item that is offered to a channel. -/
inductive SendResult where
  | sent
  | full
  | closed
deriving DecidableEq, Repr

/-- What a receiver finds. -/
inductive Received (α : Type) where
  /-- The oldest item, and the channel without it. -/
  | item (a : α) (rest : Channel α)
  /-- Nothing, but there may be more. -/
  | nothing
  /-- Nothing, and there will be no more. -/
  | closed

namespace Channel

variable {α : Type}

/-- Whether there is room for one more item. -/
def hasRoom (c : Channel α) : Bool :=
  match c.capacity with
  | some n => decide (c.queued.length < n)
  | none => true

/-- What would become of an item that is offered now. -/
def offer (c : Channel α) : SendResult :=
  if !c.senderOpen || !c.receiverOpen then .closed
  else if c.hasRoom then .sent
  else .full

/-- Offers an item. -/
def send (c : Channel α) (a : α) : Channel α :=
  match c.offer with
  | .sent => { c with queued := c.queued ++ [a] }
  | _ => c

/-- Looks for the oldest item. -/
def receive (c : Channel α) : Received α :=
  match c.queued with
  | a :: rest => .item a { c with queued := rest }
  | [] => if c.senderOpen then .nothing else .closed

/-- The sender sends no more. -/
def closeSender (c : Channel α) : Channel α := { c with senderOpen := false }

/-- The receiver receives no more. -/
def closeReceiver (c : Channel α) : Channel α := { c with receiverOpen := false, queued := [] }

theorem length_queued_of_receive {c rest : Channel α} {a : α} (h : c.receive = .item a rest) :
    c.queued.length = rest.queued.length + 1 := by
  unfold receive at h
  split at h
  · next hq =>
    simp only [Received.item.injEq] at h
    rw [hq, ← h.2]
    rfl
  · split at h <;> simp at h

end Channel

end Wayfinding
