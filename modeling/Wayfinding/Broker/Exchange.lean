import Wayfinding.Broker.Basic
import Wayfinding.Broker.Channel

/-!
# The exchange

The exchange is the broker among its channels: requests arrive from the frontend, messages of
workers from the backend, and each worker has an inbox for one request. The broker polls until
nothing is left to do, or until it is told to stop.

Main definitions:
* `Exchange.next?`: what the broker attends to first.
* `Exchange.poll`: the broker's loop up to the point where it waits or ends.
* `Exchange.supervise`: a loop that is started again after every interruption.
-/

namespace Wayfinding

/-- The broker among its channels. -/
structure Exchange where
  broker : Broker
  frontend : Channel Multipart := {}
  backend : Channel Multipart := {}
  inboxes : List (WorkerId × Channel Multipart) := []
  registry : Registry := {}
  /-- Whether an interruption is waiting; several count as one. -/
  interrupted : Bool := false
  /-- Whether the shutdown was announced and not yet heeded. -/
  stopping : Bool := false
deriving Inhabited

namespace Exchange

/-! ### Inboxes -/

/-- The inbox of a worker. -/
def inbox? (e : Exchange) (w : WorkerId) : Option (Channel Multipart) :=
  (e.inboxes.find? fun i => i.1 = w).map (·.2)

/-- Changes the inbox of a worker. -/
def updateInbox (e : Exchange) (w : WorkerId) (f : Channel Multipart → Channel Multipart) :
    Exchange :=
  { e with inboxes := e.inboxes.map fun i => if i.1 = w then (w, f i.2) else i }

/-- Whether a request can be put into the inbox of a worker. -/
def accepts (e : Exchange) (w : WorkerId) : Bool :=
  (e.inbox? w).any fun inbox => inbox.offer = .sent

/-- Puts a request into the inbox of a worker. -/
def handOver (e : Exchange) (h : Broker.HandOff) : Exchange :=
  e.updateInbox h.worker (·.send h.request)

/-- Closes the inboxes of the workers that were given up. -/
def closeForgotten (e : Exchange) : Exchange :=
  { e with
    inboxes := e.inboxes.map fun i =>
      if i.1 ∈ e.broker.workers then i else (i.1, i.2.closeSender) }

/-! ### The loop -/

/-- Hands waiting requests to idle workers. -/
def dispatch (e : Exchange) : Exchange × Option BrokerError :=
  let d := e.broker.dispatch e.accepts
  let e := (d.handOffs.foldl handOver { e with broker := d.broker }).closeForgotten
  (e, if d.workersGone then some .workersGone else none)

/-- Delivers the reply of a worker. -/
def deliver (e : Exchange) : Option (ClientId × Multipart) → Exchange
  | some (c, m) => { e with registry := e.registry.deliver c m }
  | none => e

/-- Takes a message from a client. -/
def receiveClient (e : Exchange) (m : Multipart) : Exchange :=
  { e with broker := e.broker.receiveClient m }

/-- Takes a message from a worker. -/
def receiveWorker (e : Exchange) (m : Multipart) : Exchange :=
  let r := e.broker.receiveWorker m
  deliver { e with broker := r.1 } r.2

/-- What the broker attends to. -/
inductive Event where
  | stop
  | fail (error : BrokerError)
  | worker (m : Multipart)
  | client (m : Multipart)

/-- What the broker attends to first, and the exchange without it: the shutdown, an interruption,
the workers, and the clients as long as there is room for their requests. -/
def next? (e : Exchange) : Option (Event × Exchange) :=
  if e.stopping then some (.stop, { e with stopping := false })
  else if e.interrupted then some (.fail .interrupted, { e with interrupted := false })
  else match e.backend.receive with
    | .item m backend => some (.worker m, { e with backend := backend })
    | .closed => some (.fail .workersGone, e)
    | .nothing =>
      if e.broker.pending.length < e.broker.maxPending then
        match e.frontend.receive with
        | .item m frontend => some (.client m, { e with frontend := frontend })
        | .closed => some (.fail .frontendClosed, e)
        | .nothing => none
      else none

/-- How a loop ends, for now or for good. -/
inductive LoopEnd where
  | waiting
  | stopped
  | failed (error : BrokerError)
deriving DecidableEq, Repr

/-- How many messages wait for the broker. -/
def load (e : Exchange) : Nat := e.backend.queued.length + e.frontend.queued.length

theorem handOver_load (hs : List Broker.HandOff) (e : Exchange) :
    (hs.foldl handOver e).load = e.load := by
  induction hs generalizing e with
  | nil => rfl
  | cons h hs ih => exact ih _

@[simp] theorem load_dispatch (e : Exchange) : e.dispatch.1.load = e.load :=
  handOver_load _ _

@[simp] theorem load_receiveWorker (e : Exchange) (m : Multipart) :
    (e.receiveWorker m).load = e.load := by
  unfold receiveWorker deliver
  dsimp only
  split <;> rfl

/-- Attending to a message leaves fewer of them. -/
theorem load_next? {e : Exchange} {m : Multipart} {r : Exchange}
    (h : e.next? = some (.worker m, r) ∨ e.next? = some (.client m, r)) : r.load < e.load := by
  unfold next? at h
  grind [Channel.length_queued_of_receive, load]

/-- What is left after an event that ends no loop by itself. -/
def attend (e : Exchange) : Event → Exchange
  | .worker m => e.receiveWorker m
  | .client m => e.receiveClient m
  | _ => e

/-- How an event ends the loop by itself, if it does. -/
def Event.loopEnd? : Event → Option LoopEnd
  | .stop => some .stopped
  | .fail error => some (.failed error)
  | _ => none

/-- Attending to a message leaves fewer of them. -/
theorem load_attend {e r : Exchange} {event : Event} (h : e.next? = some (event, r))
    (hm : event.loopEnd? = none) : (r.attend event).dispatch.1.load < e.load := by
  rw [load_dispatch]
  cases event with
  | stop => simp [Event.loopEnd?] at hm
  | fail => simp [Event.loopEnd?] at hm
  | worker m =>
    rw [attend, load_receiveWorker]
    exact load_next? (.inl h)
  | client m =>
    have := load_next? (.inr h)
    exact this

/-- Attends to messages until there are none, and hands out requests after each. -/
def poll (e : Exchange) : Exchange × LoopEnd :=
  match _h : e.next? with
  | none => (e, .waiting)
  | some (event, r) =>
    match _hm : event.loopEnd? with
    | some loopEnd => (r, loopEnd)
    | none =>
      match _hd : (r.attend event).dispatch with
      | (next, none) => poll next
      | (next, some error) => (next, .failed error)
termination_by e.load
decreasing_by
  have h := load_attend _h _hm
  rw [_hd] at h
  exact h

end Exchange

end Wayfinding
