import Wayfinding.Transport.Client
import Wayfinding.Transport.Codec

/-!
# Connections

A connection takes the messages of one client from a stream, and writes the replies to it. Bytes of
a message that has not arrived as a whole belong to the read that took them; a reply that arrives
meanwhile ends that read, and its bytes are gone.

Main definitions:
* `Connection.takeBytes`: what bytes from the client lead to.
* `Connection.takeReply`: what a reply for the client leads to.
-/

namespace Wayfinding

/-- A served client. -/
structure Connection where
  client : ClientId
  /-- The largest frame that the client may send. -/
  frameLimit : Nat
  /-- The bytes of a message that has not arrived as a whole. -/
  unread : List UInt8 := []
deriving DecidableEq, Inhabited

namespace Connection

/-- The requests among some messages; other messages are discarded. -/
def payloads (messages : List Multipart) : List Frame :=
  messages.filterMap fun m => (ClientMessage.parse m).toOption

/-- The request as it is passed to the broker. -/
def addressed (c : Connection) (payload : Frame) : Multipart :=
  Envelope.frames ⟨c.client.frame, payload⟩

/-- What becomes of a connection. -/
inductive Fate where
  | kept (unread : List UInt8)
  | closed
deriving DecidableEq

/-- The messages that have arrived, and what becomes of the connection. A message that is refused
closes it. -/
def takeMessages (limit : Nat) (bytes : List UInt8) : List Multipart × Fate :=
  match _h : Codec.decode limit bytes with
  | .message m rest =>
    let r := takeMessages limit rest
    (m :: r.1, r.2)
  | .refused _ _ => ([], .closed)
  | .partly _ => ([], .kept bytes)
termination_by bytes.length
decreasing_by exact Codec.length_decode_lt _h

/-- The requests that bytes from the client complete, and the connection if it stays open. -/
def takeBytes (c : Connection) (bytes : List UInt8) : List Multipart × Option Connection :=
  let (messages, fate) := takeMessages c.frameLimit (c.unread ++ bytes)
  let requests := (payloads messages).map c.addressed
  match fate with
  | .kept unread => (requests, some { c with unread := unread })
  | .closed => (requests, none)

/-- The bytes of a reply, and the connection if the reply could be written. -/
def takeReply (c : Connection) (m : Multipart) : List UInt8 × Option Connection :=
  match Codec.encode m with
  | .ok bytes => (bytes, some { c with unread := [] })
  | .error _ => ([], none)

end Connection

end Wayfinding
