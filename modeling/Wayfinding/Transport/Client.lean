import Wayfinding.Transport.Multipart
import Wayfinding.Wire.Word

/-!
# Clients

Each connected client has a number of its own, which is the first frame of its requests, and a
mailbox for its replies.

Main definitions:
* `ClientId.frame`, `ClientId.ofFrame?`: the address of a client.
* `Registry`: the mailboxes of the connected clients.
-/

namespace Wayfinding

/-- The number of a client. -/
structure ClientId where
  number : UInt64
deriving DecidableEq, Repr, Inhabited

namespace ClientId

/-- The address of a client: its number in eight bytes, the highest first. -/
def frame (c : ClientId) : Frame := Word.bigEndian 8 c.number.toNat

/-- The client at an address, which must have eight bytes. -/
def ofFrame? (f : Frame) : Option ClientId :=
  if f.length = 8 then some ⟨UInt64.ofNat (Word.ofBigEndian f)⟩ else none

/-- The name of a client. -/
def name (c : ClientId) : String :=
  let number := c.number.toNat
  s!"client-{number}"

@[simp] theorem length_frame (c : ClientId) : c.frame.length = 8 := by simp [frame]

/-- A client is found at its address. -/
@[simp] theorem ofFrame?_frame (c : ClientId) : ofFrame? c.frame = some c := by
  have h : c.number.toNat < Nat.pow 256 8 := c.number.toNat_lt
  simp [ofFrame?, frame, Word.ofBigEndian_bigEndian h]

end ClientId

/-- The connected clients and the mailboxes from which replies are read. A mailbox outlives the
connection until it is given up. -/
structure Registry where
  connected : List ClientId := []
  mailboxes : List (ClientId × List Multipart) := []
deriving DecidableEq, Inhabited

namespace Registry

/-- The replies in the mailbox of a client, if it has one. -/
def mailbox? (r : Registry) (c : ClientId) : Option (List Multipart) :=
  (r.mailboxes.find? fun m => m.1 = c).map (·.2)

/-- The mailboxes of all other clients. -/
def others (r : Registry) (c : ClientId) : List (ClientId × List Multipart) :=
  r.mailboxes.filter fun m => m.1 ≠ c

/-- Connects a client with an empty mailbox. -/
def register (r : Registry) (c : ClientId) : Registry where
  connected := if c ∈ r.connected then r.connected else r.connected ++ [c]
  mailboxes := r.others c ++ [(c, [])]

/-- Disconnects a client. -/
def remove (r : Registry) (c : ClientId) : Registry :=
  { r with connected := r.connected.filter (· ≠ c) }

/-- Gives up the mailbox of a client. -/
def hangUp (r : Registry) (c : ClientId) : Registry := { r with mailboxes := r.others c }

/-- Whether a client can still be replied to. -/
def reaches (r : Registry) (c : ClientId) : Bool :=
  decide (c ∈ r.connected) && (r.mailbox? c).isSome

/-- Puts a reply into the mailbox of a client that is connected and reads it; other replies are
dropped. -/
def deliver (r : Registry) (c : ClientId) (m : Multipart) : Registry :=
  if c ∈ r.connected then
    { r with
      mailboxes := r.mailboxes.map fun box => if box.1 = c then (c, box.2 ++ [m]) else box }
  else r

/-- Empties the mailbox of a client. -/
def drain (r : Registry) (c : ClientId) : Registry :=
  { r with mailboxes := r.mailboxes.map fun box => if box.1 = c then (c, []) else box }

end Registry

end Wayfinding
