import Wayfinding.Proofs.Broker.Order

/-!
# The broker conserves work

Whenever the loop looks for something to attend to, no request waits while a worker is idle, no more
requests wait than may, and the ready queue knows only workers that are served. The dispatch that
brings this about ends, because each of its rounds takes a worker from the ready queue; it leaves
none of these workers without a request unless it gives them up.

Main definitions:
* `Broker.Bounded`: who waits and who is known at any time.
* `Broker.Rounds`: some rounds of a dispatch, between which inboxes may fill, empty and close.
* `Broker.Accounts`: what rounds have done with the workers that they took.

Main statement: `BrokerLoop.Reachable.conserves_work`.
-/

namespace Wayfinding

namespace Broker

variable {accepts : WorkerId → Bool} {b : Broker} {d : Dispatch} {w : WorkerId} {m : Multipart}
  {n : Nat}

/-- No more requests wait than may, and none but served workers are known. -/
structure Bounded (b : Broker) : Prop where
  within : b.pending.length ≤ b.maxPending
  served : ∀ w, b.ready.state? w ≠ none → w ∈ b.workers

/-- A client's message is taken when there is room for it. -/
lemma Bounded.receiveClient (h : b.Bounded) (hroom : b.pending.length < b.maxPending) :
    (b.receiveClient m).Bounded := by
  unfold Broker.receiveClient
  cases Envelope.parse m with
  | error => exact h
  | ok e =>
    refine ⟨?_, h.served⟩
    rw [List.length_append, List.length_singleton]
    exact hroom

/-- A worker's message makes at most its sender known, who is served. -/
lemma Bounded.receiveWorker (h : b.Bounded) (m : Multipart) : (b.receiveWorker m).1.Bounded := by
  obtain ⟨hw, hp, hmax⟩ := b.receiveWorker_fields m
  refine ⟨by rw [hp, hmax]; exact h.within, fun v hv => ?_⟩
  rw [hw]
  by_cases hhead : m.head? = some v.frame
  · -- messages of workers that are not served change nothing
    obtain ⟨rest, rfl⟩ : ∃ rest, m = v.frame :: rest := by
      cases m <;> simp_all
    by_cases hmem : v ∈ b.workers
    · exact hmem
    · have hsame : (b.receiveWorker (v.frame :: rest)).1 = b := by
        simp [Broker.receiveWorker, hmem]
      rw [hsame] at hv
      exact h.served v hv
  · rw [state?_receiveWorker_of_ne hhead] at hv
    exact h.served v hv

/-! ### Rounds -/

/-- A worker that was taken from the ready queue is known. -/
lemma known_of_next {r : ReadyQueue} (hn : b.ready.next? = some (w, r)) (hs : b.ready.Sound) :
    b.ready.state? w ≠ none := by
  rw [hs.idle_of_next hn]
  exact Option.some_ne_none _

/-- Taking a worker from the ready queue makes nobody known. -/
lemma known_before_next {r : ReadyQueue} {v : WorkerId} (hn : b.ready.next? = some (w, r))
    (hs : b.ready.Sound) (hv : r.state? v ≠ none) : b.ready.state? v ≠ none := by
  obtain ⟨-, -, hothers⟩ := ReadyQueue.next?_eq_some hn
  by_cases hvw : v = w
  · rw [hvw]
    exact known_of_next hn hs
  · rw [← hothers v hvw]
    exact hv

/-- A round queues no worker that the broker does not know. -/
lemma Round.bounded (h : Round accepts b d) (ho : b.Bounded) (hs : b.ready.Sound)
    (ha : b.Addressed) : d.broker.Bounded := by
  cases h with
  | skip _ hn _ => exact ⟨ho.within, fun v hv => ho.served v (known_before_next hn hs hv)⟩
  | hand hp hn _ _ =>
    refine ⟨?_, fun v hv => ho.served v (known_before_next hn hs hv)⟩
    have hle := ho.within
    rw [hp, List.length_cons] at hle
    exact Nat.le_of_succ_le hle
  | @giveUp e rest w ready _ hp hn _ _ hl =>
    have he : e.client ≠ [] := ha e (by simp [hp])
    subst hl
    refine ⟨?_, fun v hv => ?_⟩
    · simpa [forget, requeue_frames he, hp] using ho.within
    · have hvw : v ≠ w := by
        rintro rfl
        exact hv (ReadyQueue.state?_remove_self _ _)
      have hknown : ready.state? v ≠ none := by
        rw [← ReadyQueue.state?_remove_of_ne hvw]
        exact hv
      have hmem := ho.served v (known_before_next hn hs hknown)
      exact List.mem_filter.2 ⟨hmem, by simpa using hvw⟩

/-- Some rounds of a dispatch and their outcome so far. Each round finds the inboxes as they are at
its time; after the loss of the last worker there is none. -/
inductive Rounds : Broker → Nat → Dispatch → Prop where
  | none {b : Broker} : Rounds b 0 { broker := b }
  | last {b : Broker} {d : Dispatch} {accepts : WorkerId → Bool} :
    Round accepts b d →
    d.workersGone = true →
    Rounds b 1 d
  | more {b : Broker} {n : Nat} {d d' : Dispatch} {accepts : WorkerId → Bool} :
    Round accepts b d →
    d.workersGone = false →
    Rounds d.broker n d' →
    Rounds b (n + 1) { d' with handOffs := d.handOffs ++ d'.handOffs }

/-- A dispatch has come to its end. -/
def Dispatch.Over (d : Dispatch) : Prop := d.workersGone = true ∨ d.broker.Quiet

/-- What rounds have done with the workers that they took from the ready queue. -/
structure Accounts (b : Broker) (n : Nat) (d : Dispatch) : Prop where
  /-- No more workers were taken than were idle. -/
  le_idle : n ≤ b.ready.idle
  /-- The others are idle as before. -/
  queue : d.broker.ready.queue = b.ready.queue.drop n
  /-- Those that were taken and are still served were handed one request each, and nobody else
  was. -/
  handed : d.handOffs.map HandOff.worker = (b.ready.queue.take n).filter (· ∈ d.broker.workers)
  /-- Only workers that were taken are served no more. -/
  kept : ∀ w ∈ b.workers, w ∉ b.ready.queue.take n → w ∈ d.broker.workers
  subset : d.broker.workers ⊆ b.workers
  bounded : d.broker.Bounded
  /-- The workers are gone exactly if there were some and none is left. -/
  gone : d.workersGone = true ↔ b.workers ≠ [] ∧ d.broker.workers = []

namespace Accounts

/-- Before the first round nothing has been done. -/
lemma refl (h : b.Bounded) : Accounts b 0 { broker := b } where
  le_idle := Nat.zero_le _
  queue := rfl
  handed := rfl
  kept _ hw _ := hw
  subset := List.Subset.refl _
  bounded := h
  gone := by simp

/-- What one round does, whether or not it loses the last worker. -/
lemma of_round (h : Round accepts b d) (ho : b.Bounded) (hs : b.ready.Sound)
    (ha : b.Addressed) : Accounts b 1 d := by
  have hbounded := h.bounded ho hs ha
  cases h with
  | skip _ hn hw => exact absurd (ho.served _ (known_of_next hn hs)) hw
  | hand _ hn hw _ =>
    obtain ⟨hq, -, -⟩ := ReadyQueue.next?_eq_some hn
    refine ⟨?_, ?_, ?_, fun v hv _ => hv, List.Subset.refl _, hbounded, ?_⟩
    · simp [ReadyQueue.idle, hq]
    · simp [hq]
    · simp [hq, hw]
    · simp
  | @giveUp _ _ w ready _ _ hn hw _ hl =>
    obtain ⟨hq, -, -⟩ := ReadyQueue.next?_eq_some hn
    have hnd := hs.nodup
    rw [hq, List.nodup_cons] at hnd
    -- the worker was in the queue once, so that giving it up takes nobody else from there
    have hrest : ready.queue.filter (· ≠ w) = ready.queue :=
      List.filter_eq_self.2 fun v hv => by simpa using ne_of_mem_of_not_mem hv hnd.1
    subst hl
    refine ⟨?_, ?_, ?_, fun v hv hne => ?_, List.filter_subset_self _, hbounded, ?_⟩
    · simp [ReadyQueue.idle, hq]
    · simpa [forget, ReadyQueue.remove, hq] using hrest
    · simp [forget, hq]
    · rw [hq, List.take_succ_cons, List.take_zero, List.mem_singleton] at hne
      exact List.mem_filter.2 ⟨hv, by simpa using hne⟩
    · simpa using fun _ => List.ne_nil_of_mem hw

/-- Rounds that follow a round add to what it did. -/
lemma cons {d' : Dispatch} (h : Accounts b 1 d) (hs : b.ready.Sound)
    (hgone : d.workersGone = false) (h' : Accounts d.broker n d') :
    Accounts b (n + 1) { d' with handOffs := d.handOffs ++ d'.handOffs } := by
  obtain ⟨w, rest, hq⟩ : ∃ w rest, b.ready.queue = w :: rest :=
    List.exists_cons_of_length_pos h.le_idle
  have hnd := hs.nodup
  rw [hq, List.nodup_cons] at hnd
  have hqueue : d.broker.ready.queue = rest := by rw [h.queue, hq, List.drop_one, List.tail_cons]
  have htaken : b.ready.queue.take (n + 1) = w :: rest.take n := by rw [hq, List.take_succ_cons]
  -- the first worker is not taken again, so that the later rounds do not give it up
  have hstays : w ∈ d.broker.workers ↔ w ∈ d'.broker.workers := by
    refine ⟨fun hw => h'.kept w hw ?_, fun hw => h'.subset hw⟩
    rw [hqueue]
    exact fun hmem => hnd.1 (List.mem_of_mem_take hmem)
  refine ⟨?_, ?_, ?_, fun v hv hne => ?_, List.Subset.trans h'.subset h.subset, h'.bounded, ?_⟩
  · have hle := h'.le_idle
    rw [ReadyQueue.idle, hqueue] at hle
    rw [ReadyQueue.idle, hq, List.length_cons]
    exact Nat.succ_le_succ hle
  · rw [h'.queue, hqueue, hq, List.drop_succ_cons]
  · rw [List.map_append, h.handed, h'.handed, htaken, hqueue, hq, List.take_succ_cons,
      List.take_zero, List.filter_cons, List.filter_cons]
    by_cases hw : w ∈ d'.broker.workers <;> simp [hstays, hw]
  · rw [htaken, List.mem_cons, not_or] at hne
    refine h'.kept v (h.kept v hv ?_) ?_
    · simpa [hq] using hne.1
    · rw [hqueue]
      exact hne.2
  · have hleft : ¬(b.workers ≠ [] ∧ d.broker.workers = []) := fun hc => by
      rw [h.gone.2 hc] at hgone
      cases hgone
    have hsome : d.broker.workers ≠ [] → b.workers ≠ [] := fun hd hb =>
      hd (List.subset_nil.1 (hb ▸ h.subset))
    rw [h'.gone]
    refine and_congr_left fun _ => ⟨hsome, fun hb hd => hleft ⟨hb, hd⟩⟩

end Accounts

/-- Rounds keep account of the workers that they take. -/
lemma Rounds.accounts (h : Rounds b n d) (ho : b.Bounded) (hs : b.ready.Sound)
    (ha : b.Addressed) : Accounts b n d := by
  induction h with
  | none => exact .refl ho
  | last hr _ => exact .of_round hr ho hs ha
  | more hr hgone _ ih =>
    have hd := Accounts.of_round hr ho hs ha
    exact hd.cons hs hgone (ih hd.bounded (hr.sound hs) (hr.addressed ha))

/-- Rounds that are not over can go on, whatever the inboxes accept. -/
lemma Rounds.over_or_round (d : Dispatch) (accepts : WorkerId → Bool) :
    d.Over ∨ ∃ d', Round accepts d.broker d' := by
  obtain hq | hr := quiet_or_round accepts d.broker
  · exact .inl (.inr hq)
  · exact .inr hr

/-- A dispatch goes through rounds until it is over. -/
lemma rounds_dispatch (accepts : WorkerId → Bool) (b : Broker) :
    ∃ n, Rounds b n (b.dispatch accepts) ∧ (b.dispatch accepts).Over := by
  -- every round shortens the ready queue
  generalize hn : b.ready.queue.length = n
  induction n using Nat.strongRecOn generalizing b with
  | ind n ih =>
    obtain hq | ⟨d, hd⟩ := quiet_or_round accepts b
    · rw [dispatch_quiet hq]
      exact ⟨0, .none, .inr hq⟩
    · obtain ⟨hlt, -⟩ := hd.queue_sublist
      rw [dispatch_round hd]
      cases hg : d.workersGone with
      | true =>
        rw [if_pos rfl]
        exact ⟨1, .last hd hg, .inl hg⟩
      | false =>
        rw [if_neg Bool.false_ne_true]
        obtain ⟨k, hk, hover⟩ := ih _ (hn ▸ hlt) d.broker rfl
        exact ⟨k + 1, .more hd hg hk, hover⟩

/-- Nobody is idle when nobody waits in the ready queue. -/
lemma Quiet.conserves (h : b.Quiet) (hs : b.ready.Sound) :
    b.pending = [] ∨ ∀ w, b.ready.state? w ≠ some .idle := by
  obtain hp | hn := h
  · exact .inl hp
  · refine .inr fun w hw => ?_
    have hmem := (hs.mem_iff w).2 hw
    unfold ReadyQueue.next? at hn
    split at hn
    · next hq =>
      rw [hq] at hmem
      cases hmem
    · cases hn

end Broker

namespace BrokerLoop

/-- What the broker keeps to besides the order of the requests. -/
structure Conserves (l : BrokerLoop) : Prop where
  bounded : l.exchange.broker.Bounded
  quiet :
    l.stage = .polling ∨ l.stage = .ended (.failed .interrupted) → l.exchange.broker.Quiet

/-- An event keeps the broker bounded, whatever it is. -/
lemma bounded_attend {e r : Exchange} {event : Exchange.Event} (ho : e.Offers event r)
    (h : e.broker.Bounded) : (r.attend event).broker.Bounded := by
  cases ho with
  | stop => exact h
  | interruption => exact h
  | worker =>
    rw [Exchange.attend, Exchange.broker_receiveWorker]
    exact h.receiveWorker _
  | workersGone => exact h
  | client hroom => exact h.receiveClient hroom
  | frontendClosed => exact h

/-- Each step conserves work. -/
lemma Step.conserves {l l' : BrokerLoop} (st : Step l l') (hk : Kept l) (h : Conserves l) :
    Conserves l' := by
  cases st with
  | attend ho _ => exact ⟨bounded_attend ho h.bounded, by simp⟩
  | finish ho _ =>
    have hb := ho.broker
    have hq := h.quiet (.inl rfl)
    exact ⟨hb ▸ h.bounded, fun _ => hb ▸ hq⟩
  | round hd _ =>
    refine ⟨?_, by simp⟩
    rw [Exchange.broker_carryOut]
    exact hd.bounded h.bounded hk.sound hk.addressed
  | lastRound hd _ =>
    refine ⟨?_, by simp⟩
    rw [Exchange.broker_carryOut]
    exact hd.bounded h.bounded hk.sound hk.addressed
  | rest hq => exact ⟨h.bounded, fun _ => hq⟩
  | rebuild => exact ⟨h.bounded, fun _ => h.quiet (.inr rfl)⟩
  | stop _ => exact ⟨h.bounded, by simp⟩

/-- Work is conserved in every run. -/
lemma Reachable.conserves {l : BrokerLoop} (h : Reachable l) : Conserves l := by
  induction h with
  | start hr hp =>
    refine ⟨⟨?_, ?_⟩, fun _ => .inl hp⟩
    · rw [hp]
      exact Nat.zero_le _
    · rw [hr]
      exact fun w hw => absurd rfl hw
  | step hl st ih => exact st.conserves hl.kept ih
  | outside _ hb ih => exact ⟨hb ▸ ih.bounded, fun hs => hb ▸ ih.quiet hs⟩

/-- In every run, with clients, workers and inboxes doing what they like: no more requests wait than
may, every known worker is served, and whenever the loop looks for something to attend to, no
request waits or nobody is idle. Whatever inboxes accept meanwhile, the rounds of a dispatch keep
account of the workers that they take, of which there are no more than were idle, and go on until
they are over, as they are when the dispatch returns. -/
theorem Reachable.conserves_work {l : BrokerLoop} (h : Reachable l) :
    l.exchange.broker.pending.length ≤ l.exchange.broker.maxPending ∧
      (∀ w, l.exchange.broker.ready.state? w ≠ none → w ∈ l.exchange.broker.workers) ∧
      (l.stage = .polling →
        l.exchange.broker.pending = [] ∨
          ∀ w, l.exchange.broker.ready.state? w ≠ some .idle) ∧
      (∀ n d, l.exchange.broker.Rounds n d →
        l.exchange.broker.Accounts n d ∧
          ∀ accepts, d.Over ∨ ∃ d', d.broker.Round accepts d') ∧
      ∀ accepts, ∃ n, l.exchange.broker.Rounds n (l.exchange.broker.dispatch accepts) ∧
        (l.exchange.broker.dispatch accepts).Over := by
  have hk := h.kept
  have hc := h.conserves
  refine ⟨hc.bounded.within, hc.bounded.served, fun hs => ?_, fun n d hr => ⟨?_, ?_⟩, ?_⟩
  · exact (hc.quiet (.inl hs)).conserves hk.sound
  · exact hr.accounts hc.bounded hk.sound hk.addressed
  · exact Broker.Rounds.over_or_round d
  · exact fun accepts => l.exchange.broker.rounds_dispatch accepts

/-- The broker at the crossroads when both workers have announced themselves and the request has
been taken. -/
def crossroadsBroker : Broker where
  workers := [⟨[0]⟩, ⟨[1]⟩]
  ready := { queue := [⟨[0]⟩, ⟨[1]⟩], states := [(⟨[1]⟩, .idle), (⟨[0]⟩, .idle)] }
  pending := [⟨[7], [9]⟩]
  maxPending := 2

/-- The dispatch takes both workers, gives up the first and hands the request to the second. -/
theorem conserves_work_crossroads : ∃ l : BrokerLoop, Reachable l ∧
    l.exchange.broker = crossroadsBroker ∧
      crossroadsBroker.pending.length ≤ crossroadsBroker.maxPending ∧
      ∃ d, crossroadsBroker.Rounds 2 d ∧ crossroadsBroker.Accounts 2 d ∧
        d.broker.workers = [⟨[1]⟩] ∧ d.handOffs.map Broker.HandOff.worker = [⟨[1]⟩] := by
  have started : Reachable ⟨crossroads, .polling, {}⟩ := .start rfl rfl
  have heard := started.step (.attend (.worker rfl) rfl) |>.step (.rest (.inl rfl))
  have ready := heard.step (.attend (.worker rfl) rfl) |>.step (.rest (.inl rfl))
  have taken := ready.step (.attend (.client (by decide) rfl) rfl)
  obtain ⟨hwithin, -, -, haccounts, -⟩ := taken.conserves_work
  have second := @Broker.Rounds.more _ _ _ _ crossroads.accepts
    (.hand (b := { crossroadsBroker with
      workers := [⟨[1]⟩], ready := ⟨[⟨[1]⟩], [(⟨[1]⟩, .idle)]⟩ }) rfl rfl (by decide) (by decide))
    rfl .none
  have rounds : crossroadsBroker.Rounds 2 _ :=
    @Broker.Rounds.more _ _ _ _ crossroads.accepts
      (.giveUp rfl rfl (by decide) (by decide) rfl) (by decide) second
  exact ⟨_, taken, rfl, hwithin, _, rounds, (haccounts 2 _ rounds).1, rfl, rfl⟩

end BrokerLoop

end Wayfinding
