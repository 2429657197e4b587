import Wayfinding.Broker.Supervisor
import Wayfinding.Service.Worker
import Wayfinding.Transport.Connection

/-!
# The service

The service as its clients see it: connections, the supervised broker and the workers, where
between two inputs everything is done that can be done.

Main definitions:
* `Service.start`: a service whose workers have announced themselves.
* `Service.connect`, `Service.write`, `Service.finish`, `Service.read`: what a client can do.
* `Service.ask`: one request and its reply.
* `Service.interrupt`, `Service.stop`: what the operator can do.
* `Service.pass`: what happens in the course of time.
-/

namespace Wayfinding

/-- Where the service stands with a peer. -/
inductive PeerState where
  /-- All connections are taken; the peer waits for one. -/
  | waiting
  | served (connection : Connection)
  | closed
deriving DecidableEq

/-- A peer that has connected to the service. -/
structure Peer where
  /-- Tells peers apart. -/
  key : Nat
  state : PeerState := .waiting
  /-- What the peer has written while it waited. -/
  written : List UInt8 := []
  /-- Whether the peer will write no more. -/
  finished : Bool := false
  /-- What the service has written and the peer has not read. -/
  replies : List UInt8 := []
deriving DecidableEq

/-- A running service. -/
structure Service where
  supervision : Supervision
  workers : List Worker
  shared : Shared
  peers : List Peer := []
  maxConnections : Nat
  frameLimit : Nat
  /-- The number of the next client. -/
  nextClient : UInt64 := 1

namespace Service

/-! ### Work -/

/-- The exchange of the service. -/
def exchange (s : Service) : Exchange := s.supervision.exchange

/-- Changes the exchange. -/
def withExchange (s : Service) (f : Exchange → Exchange) : Service :=
  { s with supervision := { s.supervision with exchange := f s.supervision.exchange } }

/-- Replaces a worker. -/
def setWorker (s : Service) (w : Worker) : Service :=
  { s with workers := s.workers.map fun other => if other.id = w.id then w else other }

/-- The first worker whose inbox holds a request, with that request and the inbox without it. -/
def nextTask? (s : Service) : Option (Worker × Multipart × Channel Multipart) :=
  s.workers.findSome? fun w =>
    match (s.exchange.inbox? w.id).map Channel.receive with
    | some (.item m rest) => some (w, m, rest)
    | _ => none

/-- A worker answers the request in its inbox. -/
def perform (s : Service) (w : Worker) (m : Multipart) (rest : Channel Multipart) : Service :=
  let s := s.withExchange (·.updateInbox w.id fun _ => rest)
  match (w.answer m).run s.shared with
  | (.ok (reply, w), shared) =>
    { s.setWorker w with shared := shared }.withExchange fun e =>
      { e with backend := e.backend.send reply }
  | (.error _, shared) => { s with shared := shared }

/-- How many requests are on their way to a worker. -/
def outstanding (s : Service) : Nat :=
  let e := s.exchange
  e.frontend.queued.length + e.broker.pending.length +
    e.inboxes.foldr (fun i count => i.2.queued.length + count) 0

/-- The broker and the workers do what they can, answering at most `count` requests. -/
def work (count : Nat) (s : Service) : Service :=
  let s := { s with supervision := s.supervision.settle }
  match count with
  | 0 => s
  | count + 1 =>
    match s.nextTask? with
    | some (w, m, rest) => work count (s.perform w m rest)
    | none => s

/-! ### Peers -/

/-- The peer with a key. -/
def peer? (s : Service) (key : Nat) : Option Peer := s.peers.find? fun p => p.key = key

/-- Replaces a peer. -/
def setPeer (s : Service) (p : Peer) : Service :=
  { s with peers := s.peers.map fun other => if other.key = p.key then p else other }

/-- Ends the connection of a client. -/
def leave (s : Service) (c : ClientId) : Service :=
  s.withExchange fun e => { e with registry := (e.registry.remove c).hangUp c }

/-- Writes a reply to a peer. -/
def writeReply (s : Service) (p : Peer) (c : Connection) (m : Multipart) : Service × Peer :=
  match c.takeReply m with
  | (bytes, some c) => (s, { p with state := .served c, replies := p.replies ++ bytes })
  | (bytes, none) => (s.leave c.client, { p with state := .closed, replies := p.replies ++ bytes })

/-- Writes replies to a peer as long as it is served. -/
def writeReplies (s : Service) (p : Peer) : List Multipart → Service × Peer
  | [] => (s, p)
  | m :: ms =>
    match p.state with
    | .served c =>
      let (s, p) := s.writeReply p c m
      writeReplies s p ms
    | _ => (s, p)

/-- Writes the replies in the mailbox of a peer. -/
def flushPeer (s : Service) (key : Nat) : Service :=
  match s.peer? key with
  | none => s
  | some p =>
    match p.state with
    | .served c =>
      let replies := (s.exchange.registry.mailbox? c.client).getD []
      let s := s.withExchange fun e => { e with registry := e.registry.drain c.client }
      let (s, p) := s.writeReplies p replies
      s.setPeer p
    | _ => s

/-- Does everything that can be done: the requests are answered, and the replies written. -/
def settle (s : Service) : Service :=
  let s := s.work s.outstanding
  (s.peers.map (·.key)).foldl flushPeer s

/-- Passes the requests of a client to the broker. -/
def forward (s : Service) (requests : List Multipart) : Service :=
  s.withExchange fun e => { e with frontend := requests.foldl Channel.send e.frontend }

/-- Ends the connection of a peer. -/
def closePeer (s : Service) (p : Peer) (c : Connection) : Service :=
  (s.leave c.client).setPeer { p with state := .closed }

/-- Takes bytes that a served peer has written, and its end if it has finished. -/
def takeFrom (s : Service) (p : Peer) (c : Connection) (bytes : List UInt8) : Service :=
  let (requests, kept) := c.takeBytes bytes
  let s := s.forward requests
  match kept with
  | some c =>
    if p.finished then s.closePeer p c else s.setPeer { p with state := .served c }
  | none => s.closePeer p c

/-- How many peers are served. -/
def live (s : Service) : Nat :=
  (s.peers.filter fun p => match p.state with | .served _ => true | _ => false).length

/-- Serves a peer that has waited. -/
def accept (s : Service) (p : Peer) : Service :=
  let c : Connection := { client := ⟨s.nextClient⟩, frameLimit := s.frameLimit }
  let s := { s with nextClient := s.nextClient + 1 }
  let s := s.withExchange fun e => { e with registry := e.registry.register c.client }
  let written := p.written
  let p := { p with state := .served c, written := [] }
  (s.setPeer p).takeFrom p c written

/-- Serves waiting peers as long as there are free connections, at most `count` of them. -/
def acceptWaiting (count : Nat) (s : Service) : Service :=
  match count with
  | 0 => s
  | count + 1 =>
    match s.peers.find? fun p => p.state = .waiting with
    | some p => if s.live < s.maxConnections then acceptWaiting count (s.accept p).settle else s
    | none => s

/-- Settles, and serves waiting peers as far as possible. -/
def progress (s : Service) : Service := s.settle.acceptWaiting s.peers.length

/-! ### Inputs -/

/-- A service with one worker for each handler, all of which have announced themselves. -/
def start (handlers : List Handler) (caches : Caches) (pacing : Pacing)
    (maxPending maxConnections frameLimit : Nat) : Service :=
  let workers := handlers.mapIdx fun i h => (⟨.numbered i, h⟩ : Worker)
  let exchange : Exchange :=
    { broker := { workers := workers.map (·.id), maxPending := maxPending }
      backend := { queued := workers.map (·.greeting), senderOpen := !workers.isEmpty }
      inboxes := workers.map fun w => (w.id, { capacity := some 1 }) }
  progress
    { supervision := { exchange := exchange, pacing := pacing }
      workers := workers
      shared := { caches := caches }
      maxConnections := maxConnections
      frameLimit := frameLimit }

/-- A peer connects, unless it has done so before. -/
def connect (s : Service) (key : Nat) : Service :=
  match s.peer? key with
  | some _ => s
  | none => progress { s with peers := s.peers ++ [{ key := key }] }

/-- A peer writes bytes. -/
def write (s : Service) (key : Nat) (bytes : List UInt8) : Service :=
  let s := s.connect key
  match s.peer? key with
  | none => s
  | some p =>
    match p.state with
    | .served c => (s.takeFrom p c bytes).progress
    | .waiting => s.setPeer { p with written := p.written ++ bytes }
    | .closed => s

/-- A peer writes no more. -/
def finish (s : Service) (key : Nat) : Service :=
  let s := s.connect key
  match s.peer? key with
  | none => s
  | some p =>
    let p := { p with finished := true }
    match p.state with
    | .served c => (s.takeFrom p c []).progress
    | _ => s.setPeer p

/-- What a peer finds when it reads. -/
inductive ReadResult where
  | message (m : Multipart)
  | closed
  /-- Nothing yet. -/
  | nothing
  | failed (error : FrameError)
deriving DecidableEq

/-- The largest frame that a client reads. -/
def clientFrameLimit : Nat := 16 * 1024 * 1024

/-- A peer reads a message. -/
def read (s : Service) (key : Nat) : ReadResult × Service :=
  let s := s.connect key
  match s.peer? key with
  | none => (.closed, s)
  | some p =>
    match Codec.decode clientFrameLimit p.replies with
    | .message m rest => (.message m, s.setPeer { p with replies := rest })
    | .refused e rest => (.failed e, s.setPeer { p with replies := rest })
    | .partly counted =>
      if p.state ≠ .closed then (.nothing, s)
      else if counted then (.failed .broken, s)
      else (.closed, s)

/-- What a peer has not read yet; it is gone afterwards. -/
def readRest (s : Service) (key : Nat) : List UInt8 × Service :=
  match s.peer? key with
  | none => ([], s)
  | some p => (p.replies, s.setPeer { p with replies := [] })

/-- Forgets a peer with which the service has nothing to do any more. -/
def forget (s : Service) (key : Nat) : Service :=
  { s with peers := s.peers.filter fun p => p.key ≠ key ∨ p.state ≠ .closed }

/-- A peer sends a request and reads the payload of the reply. -/
def ask (s : Service) (key : Nat) (payload : Frame) : Option Frame × Service :=
  let s := s.write key (Codec.encodeFrames (ClientMessage.frames payload))
  match s.read key with
  | (.message m, s) => ((ClientMessage.parse m).toOption, s)
  | (_, s) => (none, s)

/-- The broker's loop is interrupted. -/
def interrupt (s : Service) : Service :=
  (s.withExchange fun e => { e with interrupted := true }).progress

/-- Some time passes. -/
def pass (s : Service) (milliseconds : Nat) : Service :=
  progress { s with supervision := s.supervision.pass milliseconds }

/-- The service is shut down. -/
def stop (s : Service) : Service :=
  (s.withExchange fun e => { e with stopping := true }).progress

/-- How the service has ended: orderly, with an error of the broker, or not at all. A supervisor
that crashes takes the whole program with it, and tells nothing. -/
def ending (s : Service) : Option (Except BrokerError Unit) :=
  match s.supervision.state with
  | .stopped => some (.ok ())
  | .failed error => some (.error error)
  | _ => none

end Service

end Wayfinding
