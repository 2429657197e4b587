import Wayfinding.Broker.Exchange
import Wayfinding.Proofs.Broker.Round

/-!
# Inboxes

What becomes of an inbox when the outcome of a dispatch, or of one round of it, is carried out:
requests that were handed over are put into it, and it is closed when its worker was given up.

Main definitions: `Exchange.carryOut`, and `Broker.Dispatch.fill` for a single inbox.
Main lemmas: `inbox?_carryOut`, `carryOut_carryOut` (rounds add up to a dispatch).
-/

namespace Wayfinding

namespace Channel

variable {α : Type} {c rest : Channel α} {a : α}

/-- What is received is what was sent first. -/
lemma receive_eq_item (h : c.receive = .item a rest) :
    c.queued = a :: rest.queued ∧ rest.capacity = c.capacity ∧ rest.senderOpen = c.senderOpen ∧
      rest.receiverOpen = c.receiverOpen := by
  unfold receive at h
  split at h
  · next hq =>
    cases h
    exact ⟨hq, rfl, rfl, rfl⟩
  · split at h <;> cases h

/-- Nothing more is to be received once the sender sends no more. -/
lemma receive_eq_closed (h : c.receive = .closed) : c.queued = [] ∧ c.senderOpen = false := by
  unfold receive at h
  split at h
  · cases h
  · next hq =>
    split at h
    · cases h
    · next hs => exact ⟨hq, by simpa using hs⟩

/-- A channel without a limit takes whatever is sent, as long as both sides are open. -/
lemma offer_of_unlimited (hc : c.capacity = none) (hs : c.senderOpen = true)
    (hr : c.receiverOpen = true) : c.offer = .sent := by
  simp [offer, hasRoom, hc, hs, hr]

end Channel

/-- What becomes of the inbox of a worker in a dispatch. -/
def Broker.Dispatch.fill (d : Broker.Dispatch) (w : WorkerId) (c : Channel Multipart) :
    Channel Multipart :=
  let filled := d.handOffs.foldl (fun c o => if w = o.worker then c.send o.request else c) c
  if w ∈ d.broker.workers then filled else filled.closeSender

namespace Exchange

variable {e : Exchange} {v w : WorkerId} {d d' : Broker.Dispatch}

/-- Carries out what a dispatch, or a round of it, has decided. -/
def carryOut (e : Exchange) (d : Broker.Dispatch) : Exchange :=
  (d.handOffs.foldl handOver { e with broker := d.broker }).closeForgotten

/-- A dispatch carries out what the broker decides. -/
lemma dispatch_eq (e : Exchange) :
    e.dispatch =
      (e.carryOut (e.broker.dispatch e.accepts),
        if (e.broker.dispatch e.accepts).workersGone then some .workersGone else none) := rfl

/-- Changing the inbox of a worker changes no other. -/
lemma inbox?_updateInbox (e : Exchange) (w v : WorkerId)
    (f : Channel Multipart → Channel Multipart) :
    (e.updateInbox w f).inbox? v = if v = w then (e.inbox? v).map f else e.inbox? v :=
  lookup_update e.inboxes f w v

/-- Handing requests over changes the inboxes only. -/
lemma foldl_handOver (os : List Broker.HandOff) (e : Exchange) :
    os.foldl handOver e =
      { e with
        inboxes := e.inboxes.map fun i =>
          (i.1, os.foldl (fun c o => if i.1 = o.worker then c.send o.request else c) i.2) } := by
  induction os generalizing e with
  | nil => simp
  | cons o os ih =>
    rw [List.foldl_cons, ih]
    simp only [handOver, updateInbox, List.map_map, List.foldl_cons]
    congr 2
    funext i
    by_cases hi : i.1 = o.worker <;> simp [hi]

/-- Carrying out a dispatch changes the broker and the inboxes only. -/
lemma carryOut_eq (e : Exchange) (d : Broker.Dispatch) :
    e.carryOut d =
      { e with
        broker := d.broker, inboxes := e.inboxes.map fun i => (i.1, d.fill i.1 i.2) } := by
  simp only [carryOut, foldl_handOver, closeForgotten, List.map_map, Broker.Dispatch.fill]
  congr 2
  funext i
  by_cases hi : i.1 ∈ d.broker.workers <;> simp [hi]

/-- After a round, the broker is that of the round. -/
@[simp] lemma broker_carryOut (e : Exchange) (d : Broker.Dispatch) :
    (e.carryOut d).broker = d.broker := by
  rw [carryOut_eq]

/-- A round leaves the frontend. -/
@[simp] lemma frontend_carryOut (e : Exchange) (d : Broker.Dispatch) :
    (e.carryOut d).frontend = e.frontend := by
  rw [carryOut_eq]

/-- A round leaves the backend. -/
@[simp] lemma backend_carryOut (e : Exchange) (d : Broker.Dispatch) :
    (e.carryOut d).backend = e.backend := by
  rw [carryOut_eq]

/-- A round leaves the mailboxes. -/
@[simp] lemma registry_carryOut (e : Exchange) (d : Broker.Dispatch) :
    (e.carryOut d).registry = e.registry := by
  rw [carryOut_eq]

/-- Each inbox is filled with what was handed to its worker. -/
lemma inbox?_carryOut (e : Exchange) (d : Broker.Dispatch) (w : WorkerId) :
    (e.carryOut d).inbox? w = (e.inbox? w).map (d.fill w) := by
  rw [carryOut_eq]
  exact lookup_map e.inboxes d.fill w

/-- Whether a worker accepts depends on its inbox. -/
lemma accepts_of_inbox? {e' : Exchange} (h : e'.inbox? w = e.inbox? w) :
    e'.accepts w = e.accepts w := by
  rw [accepts, accepts, h]

end Exchange

namespace Broker.Dispatch

variable {d d' : Dispatch} {w : WorkerId} {c : Channel Multipart}

/-- Requests for other workers do not reach an inbox. -/
lemma foldl_send_of_ne {os : List HandOff} (h : ∀ o ∈ os, w ≠ o.worker) :
    os.foldl (fun c o => if w = o.worker then c.send o.request else c) c = c := by
  induction os generalizing c with
  | nil => rfl
  | cons o os ih =>
    obtain ⟨ho, hos⟩ := List.forall_mem_cons.1 h
    rw [List.foldl_cons, if_neg ho, ih hos]

/-- The inbox of a served worker that was handed nothing stays as it is. -/
lemma fill_of_mem (hw : w ∈ d.broker.workers) (h : ∀ o ∈ d.handOffs, w ≠ o.worker) :
    d.fill w c = c := by
  simp only [fill, foldl_send_of_ne h, hw, if_true]

/-- The inbox of a worker that is not served is closed. -/
lemma fill_of_notMem (hw : w ∉ d.broker.workers) (h : ∀ o ∈ d.handOffs, w ≠ o.worker) :
    d.fill w c = c.closeSender := by
  simp only [fill, foldl_send_of_ne h, hw, if_false]

/-- A request that is handed over is put into the inbox. -/
lemma fill_handOff {b : Broker} {m : Multipart} (hw : w ∈ b.workers) :
    fill { broker := b, handOffs := [⟨w, m⟩] } w c = c.send m := by
  simp [fill, hw]

/-- Two dispatches, one after the other, fill an inbox as both together do. -/
lemma fill_fill (ho : ∀ o ∈ d'.handOffs, o.worker ∈ d.broker.workers)
    (hw : d'.broker.workers ⊆ d.broker.workers) :
    d'.fill w (d.fill w c) = fill { d' with handOffs := d.handOffs ++ d'.handOffs } w c := by
  by_cases hmem : w ∈ d.broker.workers
  · simp only [fill, hmem, if_true, List.foldl_append]
  · have hne : ∀ o ∈ d'.handOffs, w ≠ o.worker := fun o h he => hmem (he ▸ ho o h)
    have hmem' : w ∉ d'.broker.workers := fun h => hmem (hw h)
    rw [fill_of_notMem hmem' hne]
    simp only [fill, hmem, hmem', if_false, List.foldl_append, foldl_send_of_ne hne]
    rfl

end Broker.Dispatch

namespace Exchange

/-- Two dispatches are carried out one after the other as both together. -/
lemma carryOut_carryOut {e : Exchange} {d d' : Broker.Dispatch}
    (ho : ∀ o ∈ d'.handOffs, o.worker ∈ d.broker.workers)
    (hw : d'.broker.workers ⊆ d.broker.workers) :
    (e.carryOut d).carryOut d' =
      e.carryOut { d' with handOffs := d.handOffs ++ d'.handOffs } := by
  simp only [carryOut_eq, List.map_map, Function.comp_def, Broker.Dispatch.fill_fill ho hw]

end Exchange

end Wayfinding
