import Wayfinding.Proofs.Answer.Procedure
import Wayfinding.Proofs.Broker.Order
import Wayfinding.Road.Fixed

/-!
# The pool of workers

The broker and the threads of its workers, each of which may act at any moment. A thread announces
itself, then takes a message from its inbox, goes through the steps of its answer, sends the answer
and listens again; it may also end at any moment.

Main definitions:
* `Pool.Step`: the steps of the broker and of the threads.
* `Pool.Reachable`: the states of runs in which clients do what they like.
-/

namespace Wayfinding

/-- A worker for trying out, whose engine finds no paths. -/
def Worker.idler : Worker := ⟨⟨[7]⟩, .mk (.fixed ⟨⟨0⟩, ⟨0⟩⟩ none []) .default none {}⟩

/-- What the thread of a worker is doing. -/
inductive Activity where
  /-- It has not announced itself. -/
  | starting
  /-- It waits for a message in its inbox. -/
  | listening
  /-- It answers a message, and a part of its procedure is left. -/
  | handling (request : Multipart) (rest : Procedure (Multipart × Worker))
  | ended

/-- The thread of a worker. -/
structure Thread where
  worker : Worker
  activity : Activity := .starting

namespace Thread

/-- The identity of the worker of a thread. -/
abbrev id (t : Thread) : WorkerId := t.worker.id

/-- A thread that has not ended. -/
def Alive (t : Thread) : Prop := t.activity ≠ .ended

/-- A thread that has announced itself. -/
def Started (t : Thread) : Prop := t.activity ≠ .starting

instance (t : Thread) : Decidable t.Alive :=
  match h : t.activity with
  | .ended => isFalse fun ha => ha h
  | .starting | .listening | .handling .. => isTrue (by simp [Alive, h])

end Thread

namespace Exchange

/-- A worker sends a message to the broker. -/
def tell (e : Exchange) (m : Multipart) : Exchange := { e with backend := e.backend.send m }

/-- The thread of a worker is gone, and with the last thread the way to the broker is closed. -/
def lose (e : Exchange) (w : WorkerId) (last : Bool) : Exchange :=
  { e.updateInbox w Channel.closeReceiver with
    backend := if last then e.backend.closeSender else e.backend }

end Exchange

/-- The broker, the threads of its workers and what they share. -/
structure Pool where
  loop : BrokerLoop
  threads : List Thread
  shared : Shared

namespace Pool

/-- The exchange of the broker. -/
abbrev exchange (s : Pool) : Exchange := s.loop.exchange

/-- What has gone through the broker's hands. -/
abbrev ledger (s : Pool) : Ledger := s.loop.ledger

/-- Puts another exchange into the broker's loop. -/
def withExchange (s : Pool) (e : Exchange) : Pool :=
  { s with loop := { s.loop with exchange := e } }

/-- Puts another thread at an index. -/
def setThread (s : Pool) (i : Nat) (t : Thread) : Pool := { s with threads := s.threads.set i t }

/-- A pool whose workers have just been started. -/
def start (workers : List Worker) (maxPending : Nat) (shared : Shared) : Pool where
  loop.exchange :=
    { broker := { workers := workers.map (·.id), maxPending := maxPending }
      backend := { senderOpen := !workers.isEmpty }
      inboxes := workers.map fun w => (w.id, { capacity := some 1 }) }
  threads := workers.map fun w => { worker := w }
  shared := shared

/-- The steps of the broker and of the threads. -/
inductive Step (s : Pool) : Pool → Prop where
  | broker {l} :
    s.loop.Step l →
    Step s { s with loop := l }
  | announce {i w} :
    s.threads[i]? = some ⟨w, .starting⟩ →
    Step s ((s.withExchange (s.exchange.tell w.greeting)).setThread i ⟨w, .listening⟩)
  | take {i w c m rest} :
    s.threads[i]? = some ⟨w, .listening⟩ →
    s.exchange.inbox? w.id = some c →
    c.receive = .item m rest →
    Step s ((s.withExchange (s.exchange.updateInbox w.id fun _ => rest)).setThread i
      ⟨w, .handling m (w.answer m)⟩)
  | work {i w m p} :
    s.threads[i]? = some ⟨w, .handling m p⟩ →
    Step s { s.setThread i ⟨w, .handling m (p.step s.shared).1⟩ with
      shared := (p.step s.shared).2 }
  | reply {i w m r w'} :
    s.threads[i]? = some ⟨w, .handling m (.done (r, w'))⟩ →
    Step s ((s.withExchange (s.exchange.tell r)).setThread i ⟨w', .listening⟩)
  | fall {i w a last} :
    s.threads[i]? = some ⟨w, a⟩ →
    a ≠ .ended →
    last = (s.threads.set i ⟨w, .ended⟩).all (¬ ·.Alive) →
    Step s ((s.withExchange (s.exchange.lose w.id last)).setThread i ⟨w, .ended⟩)

/-- What clients and the operator can do to the exchange: anything that leaves the broker, the
messages of the workers and their inboxes alone. -/
structure Outside (e e' : Exchange) : Prop where
  broker : e'.broker = e.broker
  backend : e'.backend = e.backend
  inboxes : e'.inboxes = e.inboxes

/-- The states of runs from the start of the workers, in which clients and the operator may do what
they like at any moment. -/
inductive Reachable (workers : List Worker) (maxPending : Nat) (shared : Shared) : Pool → Prop where
  | start :
    Reachable workers maxPending shared (.start workers maxPending shared)
  | step {s s'} :
    Reachable workers maxPending shared s →
    Step s s' →
    Reachable workers maxPending shared s'
  | outside {s e} :
    Reachable workers maxPending shared s →
    Outside s.exchange e →
    Reachable workers maxPending shared (s.withExchange e)

end Pool

end Wayfinding
