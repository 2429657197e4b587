import Wayfinding.Proofs.Service.Manned

/-!
# One place for each worker

Whatever clients, workers and the broker do, and in whatever order, each worker is found in exactly
one place: a message of it waits for the broker, it is idle in the ready queue, a request waits in
its inbox, or it handles a request. Hence no worker is given two requests, and none is given up
while its thread is alive.

Main definitions: `Place`, `Pool.count`, `Pool.Orderly`.
Main statement: `Pool.Reachable.orderly`.
-/

namespace Wayfinding

/-- Where a worker can be found. -/
inductive Place where
  /-- Its announcement or its reply waits for the broker. -/
  | sending
  /-- It is in the ready queue. -/
  | waiting
  /-- A request is in its inbox. -/
  | offered
  /-- It is handling a request. -/
  | handling
deriving DecidableEq

/-- How often a worker is found in a place, by what there is of it and what its thread does. -/
def View.count (v : View) (a : Activity) : Place → Nat
  | .sending => v.sent.length
  | .waiting => if v.state = some .idle then 1 else 0
  | .offered => (v.inbox.map fun c => c.queued.length).getD 0
  | .handling =>
    match a with
    | .handling .. => 1
    | _ => 0

namespace Fits

variable {P : Shared → Prop} {w : Worker} {v : View} {a : Activity}

/-- Wherever a worker is found, it is found there once and nowhere else. -/
lemma count_le (h : Fits P w v a) : ∃ p, ∀ q, v.count a q ≤ if q = p then 1 else 0 := by
  induction h with
  | away => exact ⟨.sending, by rintro (_ | _) <;> decide⟩
  | greeted => exact ⟨.sending, by rintro (_ | _) <;> simp [View.count, Channel.vacant]⟩
  | idle => exact ⟨.waiting, by rintro (_ | _) <;> simp [View.count, Channel.vacant]⟩
  | offered => exact ⟨.offered, by rintro (_ | _) <;> simp [View.count, Channel.holding]⟩
  | handling => exact ⟨.handling, by rintro (_ | _) <;> simp [View.count, Channel.vacant]⟩
  | replied => exact ⟨.sending, by rintro (_ | _) <;> simp [View.count, Channel.vacant]⟩
  | @ended v a _ ih =>
    -- with the thread its inbox and what it was doing are gone
    obtain ⟨p, hp⟩ := ih
    refine ⟨p, fun q => ?_⟩
    cases q with
    | sending => exact hp .sending
    | waiting => exact hp .waiting
    | offered =>
      simp only [View.count]
      cases v.inbox with
      | none => exact Nat.zero_le _
      | some => exact Nat.zero_le _
    | handling => exact Nat.zero_le _
  | forgotten hc _ => exact ⟨.sending, by rintro (_ | _) <;> simp [View.count, hc]⟩

/-- A worker whose thread has announced itself and has not ended is found somewhere. -/
lemma count_eq (h : Fits P w v a) (hs : a ≠ .starting) (ha : a ≠ .ended) :
    ∃ p, ∀ q, v.count a q = if q = p then 1 else 0 := by
  cases h with
  | away => exact absurd rfl hs
  | greeted => exact ⟨.sending, by rintro (_ | _) <;> rfl⟩
  | idle => exact ⟨.waiting, by rintro (_ | _) <;> rfl⟩
  | offered => exact ⟨.offered, by rintro (_ | _) <;> rfl⟩
  | handling => exact ⟨.handling, by rintro (_ | _) <;> rfl⟩
  | replied => exact ⟨.sending, by rintro (_ | _) <;> rfl⟩
  | ended => exact absurd rfl ha
  | forgotten => exact absurd rfl ha

end Fits

namespace Pool

/-- How often the worker of a thread is found in a place. -/
def count (s : Pool) (t : Thread) : Place → Nat
  | .sending => (s.exchange.backend.queued.filter fun m => m.head? = some t.id.frame).length
  | .waiting => s.exchange.broker.ready.queue.count t.id
  | .offered => ((s.exchange.inbox? t.id).map fun c => c.queued.length).getD 0
  | .handling =>
    match t.activity with
    | .handling .. => 1
    | _ => 0

/-- The order among the workers of a pool. -/
structure Orderly (s : Pool) : Prop where
  /-- A worker that has announced itself is found in one place, once, while its thread is alive. -/
  place : ∀ t ∈ s.threads, t.Started → t.Alive →
    ∃ p, ∀ q, s.count t q = if q = p then 1 else 0
  /-- No worker is ever found twice. -/
  once : ∀ t ∈ s.threads, ∃ p, ∀ q, s.count t q ≤ if q = p then 1 else 0
  /-- What waits for the broker is the announcement of a worker that has no request, or the reply of
  one to the request that it has. -/
  message : ∀ m ∈ s.exchange.backend.queued, ∀ t ∈ s.threads, m.head? = some t.id.frame →
    m = t.worker.greeting ∧ (∀ o ∈ s.ledger.outstanding, o.worker ≠ t.id) ∨
      ∃ (e : Envelope) (reply : List UInt8), ⟨t.id, e.frames⟩ ∈ s.ledger.outstanding ∧
        m = t.id.frame :: Envelope.frames ⟨e.client, reply⟩
  /-- What is in the inbox of a worker, or what it handles, is a request that it has been handed. -/
  request : ∀ t ∈ s.threads, ∀ m,
    (∃ c, s.exchange.inbox? t.id = some c ∧ m ∈ c.queued) ∨ (∃ p, t.activity = .handling m p) →
      ⟨t.id, m⟩ ∈ s.ledger.outstanding
  /-- The idle workers are those in the ready queue. -/
  idle : ∀ w, s.exchange.broker.ready.state? w = some .idle ↔ w ∈ s.exchange.broker.ready.queue
  /-- The busy workers are those that have been handed a request and whose reply has not been
  taken. -/
  busy : ∀ w, s.exchange.broker.ready.state? w = some .busy ↔
    ∃ o ∈ s.ledger.outstanding, o.worker = w
  /-- No worker has two requests. -/
  single : (s.ledger.outstanding.map (·.worker)).Nodup
  /-- The inbox of a worker to which a request can be offered is not full. -/
  room : ∀ w ∈ s.exchange.broker.ready.queue, ∃ c, s.exchange.inbox? w = some c ∧ c.offer ≠ .full
  /-- The broker serves every worker whose thread is alive. -/
  served : ∀ t ∈ s.threads, t.Alive → t.id ∈ s.exchange.broker.workers
  /-- A dispatch gives up no worker whose thread is alive, and it does not fail while there is
  one. -/
  dispatch : ∀ t ∈ s.threads, t.Alive →
    t.id ∈ s.exchange.dispatch.1.broker.workers ∧ s.exchange.dispatch.2 = none
  /-- When the broker has ended for want of workers, no thread is alive. -/
  gone : s.loop.stage = .ended (.failed .workersGone) → ∀ t ∈ s.threads, ¬ t.Alive

variable {P : Shared → Prop} {s : Pool}

/-- The places of a worker are told by what there is of it. -/
lemma Inv.count_eq (h : s.Inv P) (t : Thread) :
    s.count t = (s.exchange.view s.ledger t.id).count t.activity := by
  funext p
  cases p with
  | waiting =>
    have hm := h.kept.sound.mem_iff t.id
    simp only [count, View.count, Exchange.view, ← hm]
    exact h.kept.sound.nodup.count
  | _ => rfl

/-- What a worker has sent fits what it has been handed. -/
lemma Inv.message (h : s.Inv P) {m : Multipart} {t : Thread} (ht : t ∈ s.threads)
    (hm : m ∈ s.exchange.backend.queued) (hf : m.head? = some t.id.frame) :
    m = t.worker.greeting ∧ (∀ o ∈ s.ledger.outstanding, o.worker ≠ t.id) ∨
      ∃ (e : Envelope) (reply : List UInt8), ⟨t.id, e.frames⟩ ∈ s.ledger.outstanding ∧
        m = t.id.frame :: Envelope.frames ⟨e.client, reply⟩ := by
  have hsent : m ∈ (s.exchange.view s.ledger t.id).sent := by simp [Exchange.view, hm, hf]
  cases hv : (s.exchange.view s.ledger t.id).sent with
  | nil => simp [hv] at hsent
  | cons m' rest =>
    obtain ⟨rfl, -, hcase, -⟩ := (h.stationed.fits t ht).hear hv
    obtain rfl : m = m' := by simpa [hv] using hsent
    obtain ⟨hg, hd⟩ | ⟨-, e, reply, hr, -, -, hd⟩ := hcase
    · refine .inl ⟨hg, fun o ho hw => ?_⟩
      exact Ledger.duty_eq_none.1 hd (hw ▸ List.mem_map_of_mem ho)
    · refine .inr ⟨e, reply, ?_, hr⟩
      exact Ledger.mem_of_duty hd

/-- The busy workers are those that have been handed something. -/
lemma Inv.busy (h : s.Inv P) (w : WorkerId) :
    s.exchange.broker.ready.state? w = some .busy ↔ ∃ o ∈ s.ledger.outstanding, o.worker = w := by
  have hduty : s.ledger.duty w ≠ none ↔ ∃ o ∈ s.ledger.outstanding, o.worker = w := by
    rw [Ne, Ledger.duty_eq_none, not_not, List.mem_map]
  rw [← hduty]
  by_cases hw : w ∈ s.threads.map Thread.id
  · obtain ⟨t, ht, rfl⟩ := List.mem_map.1 hw
    exact (h.stationed.fits t ht).busy_iff
  · have hv := h.stationed.nobody w hw
    have hs : s.exchange.broker.ready.state? w = none := congrArg View.state hv
    have hd : s.ledger.duty w = none := congrArg View.duty hv
    simp [hs, hd]

/-- The dispatch of a manned pool gives up nobody whose thread is alive. -/
lemma Inv.dispatch (h : s.Inv P) {t : Thread} (ht : t ∈ s.threads) (ha : t.Alive) :
    t.id ∈ s.exchange.dispatch.1.broker.workers ∧ s.exchange.dispatch.2 = none := by
  have hstart : Manned P s.threads ⟨s.exchange, .dispatching, s.ledger⟩ :=
    Manned.congr (e := s.exchange) h rfl rfl rfl fun hs => by cases hs
  have hrun := BrokerLoop.Run.dispatch (g := s.ledger) h.tidy h.kept.sound rfl
  have hend := hrun.manned hstart
  refine ⟨hend.served ht ha, ?_⟩
  have hgone := hend.gone
  rw [Exchange.dispatch_eq] at hgone ⊢
  cases hd : (s.exchange.broker.dispatch s.exchange.accepts).workersGone with
  | false => rfl
  | true =>
    simp only [hd, if_true] at hgone
    exact absurd ha (hgone rfl t ht)

/-- In every run, the workers of the pool are in order. -/
theorem Reachable.orderly {workers : List Worker} {maxPending : Nat} {shared : Shared}
    (h : Reachable workers maxPending shared s) (hn : (workers.map (·.id)).Nodup) : s.Orderly := by
  have hi := h.manned hn
  -- each part is read off the combinations of `Fits`
  refine
    { place := fun t ht hs ha => ?_
      once := fun t ht => ?_
      message := fun m hm t ht hf => hi.message ht hm hf
      request := fun t ht m hm => ?_
      idle := fun w => (hi.kept.sound.mem_iff w).symm
      busy := hi.busy
      single := hi.single
      room := fun w hw => ?_
      served := fun t ht ha => Manned.served hi ht ha
      dispatch := fun t ht ha => hi.dispatch ht ha
      gone := hi.gone }
  · rw [hi.count_eq]
    exact (hi.stationed.fits t ht).count_eq hs ha
  · rw [hi.count_eq]
    exact (hi.stationed.fits t ht).count_le
  · obtain ⟨hinbox, hactivity⟩ := (hi.stationed.fits t ht).request (m := m)
    obtain ⟨c, hc, hmem⟩ | ⟨p, hp⟩ := hm
    · exact Ledger.mem_of_duty (hinbox c hc hmem)
    · exact Ledger.mem_of_duty (hactivity p hp)
  · have hidle := (hi.kept.sound.mem_iff w).1 hw
    obtain ⟨t, ht, rfl, -⟩ := Manned.exists_idle hi hidle
    obtain ⟨c, hc, hfull, -⟩ := Manned.inbox_of_idle hi ht hidle
    exact ⟨c, hc, hfull⟩

/-- A pool of one worker, which has announced itself and been handed a request. -/
theorem orderly_after_handOff : ∃ s : Pool,
    Reachable [.idler] 1 ⟨.ofCapacities fun _ => 1, [], []⟩ s ∧
      s.ledger.outstanding = [⟨Worker.idler.id, [[1], [], [2]]⟩] ∧ s.Orderly := by
  have started : Reachable [.idler] 1 ⟨.ofCapacities fun _ => 1, [], []⟩ _ := .start
  have asked := started.outside (e :=
    { (start [.idler] 1 ⟨.ofCapacities fun _ => 1, [], []⟩).exchange with
      frontend := { queued := [[[1], [], [2]]] } }) ⟨rfl, rfl, rfl⟩
  have announced := asked.step (.announce (i := 0) rfl)
  have heard := announced.step (.broker (.attend (.worker rfl) rfl))
  have rested := heard.step (.broker (.rest (.inl rfl)))
  have taken := rested.step (.broker (.attend (.client (by decide) rfl) rfl))
  have handed := taken.step (.broker (.round (.hand rfl rfl (by decide) (by decide)) rfl))
  exact ⟨_, handed, rfl, handed.orderly (by decide)⟩

end Pool

end Wayfinding
