import Wayfinding.Proofs.Service.Accounts
import Wayfinding.Proofs.Transport.Address
import Wayfinding.Transport.Connection

/-!
# The hub

The pool and the connections of its clients, each of which may act at any moment. A connection is
numbered when it is opened, then registers its mailbox; it reads bytes, passes on the requests among
them one by one, and writes the replies that it finds in its mailbox, until it leaves.

Main definitions:
* `Hub.Step`: the steps of the pool and of the connections.
* `Hub.Reachable`: the states of runs.
* `Hub.forwarded`, `Hub.collected`: what connections have passed on and taken from their mailboxes.
-/

namespace Wayfinding

/-- Where a connection stands. -/
inductive LinkStage where
  /-- It has its number. -/
  | counted
  /-- Its mailbox is registered. -/
  | serving
  /-- It reads and writes no more. -/
  | closing
  /-- It is no longer registered. -/
  | left
  /-- Its mailbox is gone. -/
  | gone
deriving DecidableEq

/-- A connection among the others. -/
structure Link where
  connection : Connection
  /-- The requests that have been read and not yet passed on. -/
  outbox : List Frame := []
  stage : LinkStage := .counted

/-- The client of a connection. -/
abbrev Link.client (l : Link) : ClientId := l.connection.client

/-- The pool, the connections and what has passed between them. -/
structure Hub where
  pool : Pool
  /-- All connections that have been opened, the oldest first. -/
  links : List Link := []
  nextClient : UInt64 := 1
  frameLimit : Nat
  /-- The requests that were passed on to the broker. -/
  forwarded : List (ClientId × Frame) := []
  /-- The replies that were taken from mailboxes. -/
  collected : List (ClientId × Multipart) := []

namespace Hub

/-- The exchange of the broker. -/
abbrev exchange (s : Hub) : Exchange := s.pool.exchange

/-- What has gone through the broker's hands. -/
abbrev ledger (s : Hub) : Ledger := s.pool.ledger

/-- Changes the registry. -/
def withRegistry (s : Hub) (r : Registry) : Hub :=
  { s with pool := s.pool.withExchange { s.exchange with registry := r } }

/-- Changes the frontend. -/
def withFrontend (s : Hub) (c : Channel Multipart) : Hub :=
  { s with pool := s.pool.withExchange { s.exchange with frontend := c } }

/-- Puts another connection at an index. -/
def setLink (s : Hub) (i : Nat) (l : Link) : Hub := { s with links := s.links.set i l }

/-- The connection that is opened next. -/
def nextLink (s : Hub) : Link where
  connection := { client := ⟨s.nextClient⟩, frameLimit := s.frameLimit }

/-- A hub without connections. -/
def start (workers : List Worker) (maxPending : Nat) (shared : Shared) (capacity : Option Nat)
    (frameLimit : Nat) : Hub where
  pool :=
    let pool := Pool.start workers maxPending shared
    pool.withExchange { pool.exchange with frontend := { capacity := capacity } }
  frameLimit := frameLimit

/-- What the operator can do to the exchange: interrupt the broker, announce the shutdown, close the
frontend. -/
structure Operates (e e' : Exchange) : Prop where
  outside : Pool.Outside e e'
  registry : e'.registry = e.registry
  queued : e'.frontend.queued = e.frontend.queued

/-- The steps of the pool and of the connections. -/
inductive Step (s : Hub) : Hub → Prop where
  | inside {p} :
    s.pool.Step p →
    Step s { s with pool := p }
  | operate {e} :
    Operates s.exchange e →
    Step s { s with pool := s.pool.withExchange e }
  | connect :
    Step s { s with links := s.links ++ [s.nextLink], nextClient := s.nextClient + 1 }
  | register {i l} :
    s.links[i]? = some l →
    l.stage = .counted →
    Step s
      ((s.withRegistry (s.exchange.registry.register l.client)).setLink i
        { l with stage := .serving })
  | read {i l bytes payloads kept} :
    s.links[i]? = some l →
    l.stage = .serving →
    l.connection.takeBytes bytes = (payloads.map l.connection.addressed, kept) →
    Step s
      (s.setLink i
        { connection := kept.getD l.connection
          outbox := l.outbox ++ payloads
          stage := if kept.isSome then .serving else .closing })
  | pass {i l payload rest} :
    s.links[i]? = some l →
    l.stage = .serving ∨ l.stage = .closing →
    l.outbox = payload :: rest →
    s.exchange.frontend.offer = .sent →
    Step s
      { (s.withFrontend (s.exchange.frontend.send (l.connection.addressed payload))).setLink i
          { l with outbox := rest } with
        forwarded := s.forwarded ++ [(l.client, payload)] }
  | write {i l m rest} :
    s.links[i]? = some l →
    l.stage = .serving →
    s.exchange.registry.mailbox? l.client = some (m :: rest) →
    Step s
      { (s.withRegistry (s.exchange.registry.pop l.client)).setLink i
          { l with
            connection := (l.connection.takeReply m).2.getD l.connection
            stage := if (l.connection.takeReply m).2.isSome then .serving else .closing } with
        collected := s.collected ++ [(l.client, m)] }
  | quit {i l} :
    s.links[i]? = some l →
    l.stage = .serving →
    Step s (s.setLink i { l with stage := .closing })
  | leave {i l} :
    s.links[i]? = some l →
    l.stage = .closing →
    Step s
      ((s.withRegistry (s.exchange.registry.remove l.client)).setLink i { l with stage := .left })
  | hangUp {i l} :
    s.links[i]? = some l →
    l.stage = .left →
    Step s
      ((s.withRegistry (s.exchange.registry.hangUp l.client)).setLink i { l with stage := .gone })

/-- The states of runs. -/
inductive Reachable (workers : List Worker) (maxPending : Nat) (shared : Shared)
    (capacity : Option Nat) (frameLimit : Nat) : Hub → Prop where
  | start :
    Reachable workers maxPending shared capacity frameLimit
      (.start workers maxPending shared capacity frameLimit)
  | step {s s'} :
    Reachable workers maxPending shared capacity frameLimit s →
    Step s s' →
    Reachable workers maxPending shared capacity frameLimit s'

/-- The hub does with its pool what can be done with any pool. -/
lemma Step.pool_reachable {workers : List Worker} {maxPending : Nat} {shared : Shared} {s s' : Hub}
    (st : s.Step s') (h : Pool.Reachable workers maxPending shared s.pool) :
    Pool.Reachable workers maxPending shared s'.pool := by
  cases st with
  | inside hp => exact h.step hp
  | operate ho => exact h.outside ho.outside
  | connect => exact h
  | read => exact h
  | quit => exact h
  | _ => exact h.outside ⟨rfl, rfl, rfl⟩

/-- In every run of the hub, the pool goes through a run of its own. -/
lemma Reachable.pool {workers : List Worker} {maxPending : Nat} {shared : Shared}
    {capacity : Option Nat} {frameLimit : Nat} {s : Hub}
    (h : Reachable workers maxPending shared capacity frameLimit s) :
    Pool.Reachable workers maxPending shared s.pool := by
  induction h with
  | start => exact .outside .start ⟨rfl, rfl, rfl⟩
  | step _ st ih => exact st.pool_reachable ih

end Hub

namespace Connection

variable {c c' : Connection} {bytes : List UInt8} {m : Multipart} {requests : List Multipart}

/-- What a connection reads are its client's requests and nothing else. -/
lemma exists_read (c : Connection) (bytes : List UInt8) :
    ∃ (payloads : List Frame) (kept : Option Connection),
      c.takeBytes bytes = (payloads.map c.addressed, kept) := by
  unfold takeBytes
  dsimp only
  split
  · exact ⟨_, _, rfl⟩
  · exact ⟨_, _, rfl⟩

/-- A connection keeps its client when it reads. -/
lemma client_takeBytes (h : c.takeBytes bytes = (requests, some c')) : c'.client = c.client := by
  unfold takeBytes at h
  dsimp only at h
  split at h
  · cases h
    rfl
  · cases h

/-- A connection that has written a reply is that of the same client. -/
lemma client_takeReply (h : (c.takeReply m).2 = some c') : c'.client = c.client := by
  unfold takeReply at h
  split at h
  · cases h
    rfl
  · cases h

/-- Whether or not it stays open, it has the same client after it has read. -/
lemma client_getD_takeBytes {kept : Option Connection} (h : c.takeBytes bytes = (requests, kept)) :
    (kept.getD c).client = c.client := by
  cases kept with
  | none => rfl
  | some c' => exact client_takeBytes h

/-- Whether or not it stays open, it has the same client after it has written a reply. -/
lemma client_getD_takeReply (c : Connection) (m : Multipart) :
    ((c.takeReply m).2.getD c).client = c.client := by
  cases hk : (c.takeReply m).2 with
  | none => rfl
  | some c' => exact client_takeReply hk

end Connection

end Wayfinding
