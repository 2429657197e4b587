import Wayfinding.Broker.ReadyQueue
import Wayfinding.Transport.Client

/-!
# The broker

The broker pairs the requests of clients with idle workers. Requests that find no idle worker wait
in the order of their arrival, and each reply of a worker makes it idle again.

Main definitions:
* `Broker.receiveClient`, `Broker.receiveWorker`: what a message changes.
* `Broker.dispatch`: hands waiting requests to idle workers, as long as there are both.
-/

namespace Wayfinding

/-- Why the broker stops polling. -/
inductive BrokerError where
  | interrupted
  | workersGone
  | frontendClosed
deriving DecidableEq, Repr

namespace BrokerError

/-- What is told about an error. -/
def message : BrokerError → String
  | interrupted => "broker loop interrupted"
  | workersGone => "all workers are gone"
  | frontendClosed => "frontend channel closed"

end BrokerError

/-- The state of the broker between two messages. -/
structure Broker where
  /-- The workers to which requests can be handed. -/
  workers : List WorkerId
  ready : ReadyQueue := {}
  /-- The requests that wait for a worker, the oldest first. -/
  pending : List Envelope := []
  /-- No more than this many requests are taken from clients to wait. -/
  maxPending : Nat
deriving DecidableEq, Inhabited

namespace Broker

/-- The frame by which a worker announces that it is ready. -/
def readyFrame : Frame := Utf8.encode "READY"

/-- The message by which a worker announces that it is ready. -/
def readyMessage (w : WorkerId) : Multipart := [w.frame, readyFrame]

/-! ### Messages -/

/-- Queues the request of a client; what is no request is discarded. -/
def receiveClient (b : Broker) (m : Multipart) : Broker :=
  match Envelope.parse m with
  | .ok e => { b with pending := b.pending ++ [e] }
  | .error _ => b

/-- The reply for a client that an addressed message carries, if its address is one. -/
def delivery? (e : Envelope) : Option (ClientId × Multipart) :=
  (ClientId.ofFrame? e.client).map fun c => (c, ClientMessage.frames e.payload)

/-- Makes a worker idle that was given a request. -/
def release (b : Broker) (w : WorkerId) : Broker :=
  if b.ready.state? w = some .busy then { b with ready := (b.ready.markReady w).2 } else b

/-- Takes the message of a known worker: it is ready, or it has a reply for a client. -/
def receiveKnown (b : Broker) (w : WorkerId) (rest : Multipart) :
    Broker × Option (ClientId × Multipart) :=
  if rest = [readyFrame] then ({ b with ready := (b.ready.markReady w).2 }, none)
  else match Envelope.parse rest with
    | .ok e => (b.release w, delivery? e)
    | .error _ => (b, none)

/-- Takes the message of a worker, and gives the reply that is to be delivered; messages without a
known sender are discarded. -/
def receiveWorker (b : Broker) : Multipart → Broker × Option (ClientId × Multipart)
  | [] => (b, none)
  | identity :: rest =>
    if ⟨identity⟩ ∈ b.workers then b.receiveKnown ⟨identity⟩ rest else (b, none)

/-! ### Dispatch -/

/-- A request in the hands of a worker. -/
structure HandOff where
  worker : WorkerId
  request : Multipart
deriving DecidableEq

/-- What a dispatch leaves: the broker, the requests that were handed over, and whether the last
worker was lost. -/
structure Dispatch where
  broker : Broker
  handOffs : List HandOff := []
  workersGone : Bool := false
deriving DecidableEq

/-- The requests with one that could not be handed over put back in front. -/
def requeue (m : Multipart) (pending : List Envelope) : List Envelope :=
  match Envelope.parse m with
  | .ok e => e :: pending
  | .error _ => pending

/-- Gives up a worker. -/
def forget (b : Broker) (w : WorkerId) : Broker :=
  { b with workers := b.workers.filter (· ≠ w), ready := b.ready.remove w }

/-- Hands waiting requests to idle workers, the oldest request to the worker that has been waiting
longest. `accepts` tells which workers can be handed a request; one that cannot is given up, and
its request waits on. -/
def dispatch (accepts : WorkerId → Bool) (b : Broker) : Dispatch :=
  match b.pending with
  | [] => { broker := b }
  | e :: rest =>
    match _h : b.ready.next? with
    | none => { broker := b }
    | some (w, ready) =>
      if w ∉ b.workers then dispatch accepts { b with ready := ready }
      else if accepts w then
        let d := dispatch accepts { b with ready := ready, pending := rest }
        { d with handOffs := ⟨w, e.frames⟩ :: d.handOffs }
      else
        let b' := forget { b with ready := ready, pending := requeue e.frames rest } w
        if b'.workers = [] then { broker := b', workersGone := true } else dispatch accepts b'
termination_by b.ready.queue.length
decreasing_by
  all_goals
    have h1 := ReadyQueue.length_queue_of_next? _h
    have h2 := ReadyQueue.length_queue_remove_le ready w
    simp only [forget] at *
    omega

end Broker

end Wayfinding
