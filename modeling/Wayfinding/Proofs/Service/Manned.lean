import Wayfinding.Proofs.Broker.Poll
import Wayfinding.Proofs.Service.Occupancy

/-!
# The invariant of the pool

In every state of a run, what there is of each worker fits what its thread does, and there is
nothing of anybody else. Every step of the broker and of the threads keeps this: it changes what
there is of one worker, and for that one the lemmas about `Fits` tell what becomes of it.

Main definition: `Manned`.
Main lemmas: `BrokerLoop.Step.manned`, `Pool.Step.manned`, `Pool.Reachable.manned`.
-/

namespace Wayfinding

/-! ### Outstanding requests -/

namespace Ledger

variable {g : Ledger} {v w : WorkerId} {o : Broker.HandOff} {reply : Envelope}

/-- Who has no request that it has not answered. -/
lemma duty_eq_none : g.duty w = none ↔ w ∉ g.outstanding.map (·.worker) := by
  simp [duty]

/-- The request that somebody has is outstanding. -/
lemma mem_of_duty {m : Multipart} (h : g.duty w = some m) : ⟨w, m⟩ ∈ g.outstanding := by
  obtain ⟨o, ho, rfl⟩ := Option.map_eq_some_iff.1 h
  obtain rfl : o.worker = w := by simpa using List.find?_some ho
  exact List.mem_of_find?_eq_some ho

/-- Whoever is handed a request has it. -/
lemma duty_hand_self (h : g.duty o.worker = none) :
    (g.hand [o]).duty o.worker = some o.request := by
  simp only [duty, Option.map_eq_none_iff] at h
  simp [duty, hand, List.find?_append, h]

/-- Requests for others are no duty of this worker. -/
lemma duty_hand_of_ne {os : List Broker.HandOff} (h : ∀ o ∈ os, o.worker ≠ w) :
    (g.hand os).duty w = g.duty w := by
  have hn : os.find? (fun o => o.worker = w) = none := by simpa using h
  simp [duty, hand, List.find?_append, hn]

/-- Whoever has answered has no request. -/
lemma duty_settle_self : (g.settle w reply).duty w = none := by
  unfold settle
  split
  · simp [duty]
  · next h => simp [duty, h]

/-- Nobody is relieved by what others answer. -/
lemma duty_settle_of_ne (h : v ≠ w) : (g.settle w reply).duty v = g.duty v := by
  unfold settle
  split
  · simp only [duty, List.find?_filter]
    congr 2
    funext o
    by_cases ho : o.worker = v <;> simp [ho, h]
  · rfl

/-- Delivering relieves nobody. -/
@[simp] lemma duty_deliver {r : Registry} : (g.deliver r reply).duty w = g.duty w := by
  simp [duty]

/-- Outstanding requests become fewer with an answer. -/
lemma outstanding_settle_sublist : (g.settle w reply).outstanding.Sublist g.outstanding := by
  unfold settle
  split
  · exact List.filter_sublist
  · exact .refl _

end Ledger

/-! ### Stations -/

/-- What there is of each worker fits its thread, and there is nothing of anybody else. -/
structure Stationed (P : Shared → Prop) (ts : List Thread) (view : WorkerId → View) : Prop where
  nodup : (ts.map Thread.id).Nodup
  fits : ∀ t ∈ ts, Fits P t.worker (view t.id) t.activity
  nobody : ∀ w ∉ ts.map Thread.id, view w = .nobody

namespace Stationed

variable {P : Shared → Prop} {ts : List Thread} {view view' : WorkerId → View} {t t' : Thread}
  {i : Nat}

/-- A move that concerns one worker has to fit for this worker only. -/
lemma set (h : Stationed P ts view) (hi : ts[i]? = some t) (hid : t'.id = t.id)
    (self : Fits P t'.worker (view' t.id) t'.activity)
    (others : ∀ v, v ≠ t.id → view' v = view v) : Stationed P (ts.set i t') view' := by
  have hmap : (ts.set i t').map Thread.id = ts.map Thread.id := map_set_of_eq hi hid
  refine ⟨hmap ▸ h.nodup, fun u hu => ?_, fun w hw => ?_⟩
  · -- the identities are distinct, so the other threads are those of other workers
    obtain rfl | ⟨hu, hne⟩ := eq_or_mem_of_mem_set h.nodup hi hu
    · rw [hid]
      exact self
    · rw [others _ hne]
      exact h.fits u hu
  · rw [hmap] at hw
    have hne : w ≠ t.id := by
      rintro rfl
      exact hw (List.mem_map_of_mem (List.mem_of_getElem? hi))
    rw [others w hne]
    exact h.nobody w hw

/-- A move of the broker that concerns one worker has to fit for this worker only. -/
lemma update (h : Stationed P ts view) (ht : t ∈ ts)
    (self : Fits P t.worker (view' t.id) t.activity)
    (others : ∀ v, v ≠ t.id → view' v = view v) : Stationed P ts view' := by
  obtain ⟨i, hlt, rfl⟩ := List.mem_iff_getElem.1 ht
  have hs := h.set (List.getElem?_eq_getElem hlt) rfl self others
  rwa [List.set_getElem_self] at hs

/-- Somebody of whom there is something has a thread. -/
lemma exists_thread {w : WorkerId} (h : Stationed P ts view) (hw : view w ≠ .nobody) :
    ∃ t ∈ ts, t.id = w := by
  by_contra hn
  refine hw (h.nobody w ?_)
  simpa using hn

end Stationed

/-- What holds of the broker and the threads of its workers in every state of a run. -/
structure Manned (P : Shared → Prop) (ts : List Thread) (l : BrokerLoop) : Prop where
  kept : l.Kept
  tidy : l.exchange.Tidy
  stationed : Stationed P ts (l.exchange.view l.ledger)
  single : (l.ledger.outstanding.map (·.worker)).Nodup
  roomy : l.exchange.backend.capacity = none ∧ l.exchange.backend.receiverOpen = true
  connected : ∀ t ∈ ts, t.Alive → l.exchange.backend.senderOpen = true
  gone : l.stage = .ended (.failed .workersGone) → ∀ t ∈ ts, ¬ t.Alive

/-! ### Steps of the broker -/

namespace Exchange

variable {e : Exchange} {g : Ledger} {v : WorkerId} {w : Worker} {m : Multipart}
  {rest : Channel Multipart} {P : Shared → Prop} {a : Activity} {d : Broker.Dispatch}

/-- The exchange and the ledger after the broker has heard a worker. -/
lemma view_attend_worker (e : Exchange) (g : Ledger) (m : Multipart) (v : WorkerId) :
    (e.attend (.worker m)).view (g.attend e (.worker m)) v =
      { e.view g v with
        state := (e.broker.receiveWorker m).1.ready.state? v
        duty := (g.attend e (.worker m)).duty v } := by
  obtain ⟨hw, -, -⟩ := e.broker.receiveWorker_fields m
  have hb : (e.receiveWorker m).backend = e.backend := by
    simp only [receiveWorker, deliver]
    split <;> rfl
  have hi : (e.receiveWorker m).inbox? v = e.inbox? v := by
    simp only [receiveWorker, deliver]
    split <;> rfl
  simp only [view, Exchange.attend, broker_receiveWorker, hw, hb, hi]

/-- Hearing one worker changes nothing for the others. -/
lemma view_attend_worker_of_ne (hr : e.backend.receive = .item m rest)
    (hm : m.head? ≠ some v.frame) :
    (Exchange.attend { e with backend := rest } (.worker m)).view
        (g.attend { e with backend := rest } (.worker m)) v = e.view g v := by
  obtain ⟨hq, -⟩ := Channel.receive_eq_item hr
  have hd : (g.attend { e with backend := rest } (.worker m)).duty v = g.duty v := by
    simp only [Ledger.attend]
    split
    · next w reply hrep =>
      obtain ⟨rfl, -, -⟩ := Broker.reply?_eq_some hrep
      have hne : v ≠ w := by
        rintro rfl
        exact hm rfl
      rw [Ledger.duty_deliver, Ledger.duty_settle_of_ne hne]
    · rfl
  rw [view_attend_worker, hd, Broker.state?_receiveWorker_of_ne hm]
  simp [view, hq, hm, inbox?]

/-- When the broker has heard a worker, it is idle and has no request. -/
lemma fits_attend_worker (h : Fits P w (e.view g w.id) a)
    (hr : e.backend.receive = .item m rest) (hm : m.head? = some w.id.frame) :
    Fits P w
      ((Exchange.attend { e with backend := rest } (.worker m)).view
        (g.attend { e with backend := rest } (.worker m)) w.id) a := by
  obtain ⟨hq, -⟩ := Channel.receive_eq_item hr
  have hs : (e.view g w.id).sent = m :: (view { e with backend := rest } g w.id).sent := by
    simp [view, hq, hm]
  obtain ⟨hnil, hserved, hcase, hf⟩ := h.hear hs
  have hmem : w.id ∈ e.broker.workers := by simpa [view] using hserved
  rw [view_attend_worker]
  obtain ⟨rfl, hduty⟩ | ⟨hbusy, e', reply, rfl, hc, -, -⟩ := hcase
  · -- an announcement is no reply, so the ledger stays
    simp only [Ledger.attend, Worker.greeting, Broker.reply?_ready, Broker.receiveWorker_ready hmem,
      ReadyQueue.state?_markReady_self]
    have hd : g.duty w.id = none := hduty
    rw [hd]
    simp only [view] at hf hnil ⊢
    rw [hnil]
    exact hf
  · -- a reply settles the request that the worker has
    have hc' : (Envelope.mk e'.client reply).client ≠ [] := hc
    have hst : e.broker.ready.state? w.id = some .busy := hbusy
    simp only [Ledger.attend, Broker.reply?_frames hmem hc', Broker.receiveWorker_frames hmem hc',
      Broker.release, hst, if_true, ReadyQueue.state?_markReady_self, Ledger.duty_deliver,
      Ledger.duty_settle_self]
    simp only [view] at hf hnil ⊢
    rw [hnil]
    exact hf

/-- A round in which a worker is neither asked nor given up changes nothing for it. -/
lemma view_carryOut_of_same (ht : e.Tidy)
    (hq : d.broker.ready.state? v = e.broker.ready.state? v)
    (hw : v ∈ d.broker.workers ↔ v ∈ e.broker.workers) (ho : ∀ o ∈ d.handOffs, o.worker ≠ v) :
    (e.carryOut d).view (g.hand d.handOffs) v = e.view g v := by
  have ho' : ∀ o ∈ d.handOffs, v ≠ o.worker := fun o h => (ho o h).symm
  have hi : (e.inbox? v).map (d.fill v) = e.inbox? v := by
    cases hf : e.inboxes.find? fun i => i.1 = v with
    | none => simp [inbox?, hf]
    | some i =>
      obtain rfl : i.1 = v := by simpa using List.find?_some hf
      by_cases hs : i.1 ∈ d.broker.workers
      · simp [inbox?, hf, Broker.Dispatch.fill_of_mem hs ho']
      · -- it was given up before, so its inbox is closed already
        have hc := ht i (List.mem_of_find?_eq_some hf) (mt hw.2 hs)
        simp [inbox?, hf, Broker.Dispatch.fill_of_notMem hs ho', Channel.closeSender, ← hc]
  simp only [view, backend_carryOut, broker_carryOut, inbox?_carryOut, hi, hq,
    Ledger.duty_hand_of_ne ho]
  congr 1
  exact decide_eq_decide.2 hw

end Exchange

namespace Manned

variable {P : Shared → Prop} {ts : List Thread} {e r : Exchange} {g : Ledger} {s s' : LoopStage}
  {l l' : BrokerLoop} {d : Broker.Dispatch} {t : Thread} {m : Multipart} {w : WorkerId}

/-- An idle worker has a thread and no request, and is served. -/
lemma exists_idle (h : Manned P ts ⟨e, s, g⟩) (hw : e.broker.ready.state? w = some .idle) :
    ∃ t ∈ ts, t.id = w ∧ w ∈ e.broker.workers ∧ g.duty w = none := by
  have hs : (e.view g w).state = some .idle := hw
  obtain ⟨t, ht, rfl⟩ := h.stationed.exists_thread (w := w) fun hn => by
    have hn' : e.view g w = .nobody := hn
    rw [hn'] at hs
    cases hs
  obtain ⟨-, hserved, hduty, -⟩ := (h.stationed.fits t ht).of_idle hs
  exact ⟨t, ht, rfl, by simpa [Exchange.view] using hserved, hduty⟩

/-- The inbox of an idle worker is not full, and it can be handed a request if its thread is
alive. -/
lemma inbox_of_idle (h : Manned P ts ⟨e, s, g⟩) (ht : t ∈ ts)
    (hw : e.broker.ready.state? t.id = some .idle) :
    ∃ c, e.inbox? t.id = some c ∧ c.offer ≠ .full ∧ (e.accepts t.id = true ↔ t.Alive) := by
  obtain ⟨-, -, -, c, hc, hoff⟩ := (h.stationed.fits t ht).of_idle hw
  have hin : e.inbox? t.id = some c := hc
  refine ⟨c, hin, ?_⟩
  obtain ⟨ho, ha, -⟩ | ⟨ho, ha, -⟩ := hoff
  · simp [Exchange.accepts, hin, ho, Thread.Alive, ha]
  · simp [Exchange.accepts, hin, ho, Thread.Alive, ha]

/-- The broker serves the workers whose threads are alive. -/
lemma served (h : Manned P ts ⟨e, s, g⟩) (ht : t ∈ ts) (ha : t.Alive) :
    t.id ∈ e.broker.workers := by
  simpa [Exchange.view] using (h.stationed.fits t ht).served ha

/-- Changes elsewhere do not matter. -/
lemma congr {e' : Exchange} (h : Manned P ts ⟨e, s, g⟩) (hb : e'.broker = e.broker)
    (hk : e'.backend = e.backend) (hi : e'.inboxes = e.inboxes)
    (hg : s' = .ended (.failed .workersGone) → ∀ t ∈ ts, ¬ t.Alive) : Manned P ts ⟨e', s', g⟩ := by
  have hv : e'.view g = e.view g := by
    funext v
    simp only [Exchange.view, Exchange.inbox?, hb, hk, hi]
  obtain ⟨hkept, htidy, hst, hsingle, hroomy, hconn, -⟩ := h
  refine ⟨hkept.congr hb, ?_, ?_, hsingle, ?_, ?_, hg⟩
  · simpa only [Exchange.Tidy, hi, hb] using htidy
  · exact hv ▸ hst
  · simpa only [hk] using hroomy
  · simpa only [hk] using hconn

/-- The broker hears a worker. -/
lemma hear {rest : Channel Multipart} (h : Manned P ts ⟨e, s, g⟩)
    (hr : e.backend.receive = .item m rest) :
    Manned P ts
      ⟨Exchange.attend { e with backend := rest } (.worker m), .dispatching,
        g.attend { e with backend := rest } (.worker m)⟩ := by
  obtain ⟨hq, hc, hs, ho⟩ := Channel.receive_eq_item hr
  have hb : (Exchange.receiveWorker { e with backend := rest } m).backend = rest := by
    simp only [Exchange.receiveWorker, Exchange.deliver]
    split <;> rfl
  refine ⟨?_, ?_, ?_, ?_, ?_, ?_, fun hs => by cases hs⟩
  · have hkept : BrokerLoop.Kept ⟨{ e with backend := rest }, .polling, g⟩ := h.kept.congr rfl
    exact hkept.attend rfl
  · exact Exchange.Tidy.attend (e := { e with backend := rest }) h.tidy (.worker m)
  · by_cases hex : ∃ t ∈ ts, m.head? = some t.id.frame
    · obtain ⟨t, ht, hm⟩ := hex
      refine h.stationed.update ht ?_ fun v hv => ?_
      · exact Exchange.fits_attend_worker (h.stationed.fits t ht) hr hm
      · refine Exchange.view_attend_worker_of_ne hr fun hm' => hv ?_
        have hf : t.id.frame = v.frame := Option.some.inj (hm.symm.trans hm')
        cases v
        exact congrArg WorkerId.mk hf.symm
    · -- nobody has sent it, which leaves only a message without frames
      have hnone : ∀ v : WorkerId, m.head? ≠ some v.frame := by
        intro v hm
        obtain ⟨t, ht, rfl⟩ := h.stationed.exists_thread (w := v) fun hn => by
          have hs : (e.view g v).sent ≠ [] := by simp [Exchange.view, hq, hm]
          exact hs (congrArg View.sent hn)
        exact hex ⟨t, ht, hm⟩
      have hv : (Exchange.attend { e with backend := rest } (.worker m)).view
          (g.attend { e with backend := rest } (.worker m)) = e.view g :=
        funext fun v => Exchange.view_attend_worker_of_ne hr (hnone v)
      exact hv ▸ h.stationed
  · refine List.Nodup.sublist ?_ h.single
    refine List.Sublist.map _ ?_
    simp only [Ledger.attend]
    split
    · rw [Ledger.outstanding_deliver]
      exact Ledger.outstanding_settle_sublist
    · exact .refl _
  · simpa only [Exchange.attend, hb, hc, ho] using h.roomy
  · simpa only [Exchange.attend, hb, hs] using h.connected

/-- A request is handed to an idle worker, whose inbox takes it. -/
lemma stationed_hand {env : Envelope} {t : Thread} {ready : ReadyQueue} {pending : List Envelope}
    (h : Manned P ts ⟨e, s, g⟩) (ht : t ∈ ts) (hn : e.broker.ready.next? = some (t.id, ready))
    (hw : t.id ∈ e.broker.workers) (ha : e.accepts t.id = true) (henv : env.client ≠ [])
    (hd : d = { broker := { e.broker with ready := ready, pending := pending }
                handOffs := [⟨t.id, env.frames⟩] }) :
    Stationed P ts ((e.carryOut d).view (g.hand d.handOffs)) := by
  subst hd
  have hidle := h.kept.sound.idle_of_next hn
  obtain ⟨-, hbusy, hothers⟩ := ReadyQueue.next?_eq_some hn
  obtain ⟨-, -, -, hacc⟩ := h.inbox_of_idle ht hidle
  refine h.stationed.update ht ?_ fun v hv => ?_
  · obtain ⟨-, -, hd, c, hc, ⟨-, -, hf⟩ | ⟨-, hend, -⟩⟩ := (h.stationed.fits t ht).of_idle hidle
    · have hduty : g.duty t.id = none := hd
      have hin : e.inbox? t.id = some c := hc
      have hf' := hf env henv
      simp only [Exchange.view, Exchange.backend_carryOut, Exchange.broker_carryOut,
        Exchange.inbox?_carryOut, hin, hbusy, hw] at hf' ⊢
      rw [Option.map_some, Ledger.duty_hand_self hduty, Broker.Dispatch.fill_handOff
        (b := { e.broker with ready := ready, pending := _ }) hw]
      exact hf'
    · exact absurd hend (hacc.1 ha)
  · exact Exchange.view_carryOut_of_same h.tidy (hothers v hv) .rfl (by simpa using hv.symm)

/-- An idle worker is given up, whose thread has ended. -/
lemma stationed_giveUp {t : Thread} {ready : ReadyQueue} {pending : List Envelope} {gone : Bool}
    (h : Manned P ts ⟨e, s, g⟩) (ht : t ∈ ts) (hn : e.broker.ready.next? = some (t.id, ready))
    (ha : ¬ t.Alive)
    (hd : d = { broker := Broker.forget { e.broker with ready := ready, pending := pending } t.id
                workersGone := gone }) :
    Stationed P ts ((e.carryOut d).view (g.hand d.handOffs)) := by
  subst hd
  have hidle := h.kept.sound.idle_of_next hn
  obtain ⟨-, -, hothers⟩ := ReadyQueue.next?_eq_some hn
  refine h.stationed.update ht ?_ fun v hv => ?_
  · obtain ⟨-, -, -, c, hc, ⟨-, hal, -⟩ | ⟨-, -, hf⟩⟩ := (h.stationed.fits t ht).of_idle hidle
    · exact absurd hal ha
    · have hin : e.inbox? t.id = some c := hc
      simpa [Exchange.view, Exchange.inbox?_carryOut, hin, Broker.Dispatch.fill, Broker.forget,
        Ledger.hand, Ledger.duty] using hf
  · refine Exchange.view_carryOut_of_same h.tidy ?_ ?_ (by simp)
    · exact (ReadyQueue.state?_remove_of_ne hv).trans (hothers v hv)
    · simp [Broker.forget, hv]

/-- A round asks an idle worker, and hands it the request or gives it up as its thread is alive or
not. -/
lemma round (h : Manned P ts ⟨e, s, g⟩) (hd : e.broker.Round e.accepts d)
    (hs' : s' = .ended (.failed .workersGone) → d.workersGone = true) :
    Manned P ts ⟨e.carryOut d, s', g.hand d.handOffs⟩ := by
  have hkept : BrokerLoop.Kept ⟨e.carryOut d, s', g.hand d.handOffs⟩ := h.kept.round hd
  have htidy := e.tidy_carryOut d
  have hroomy := h.roomy
  have hconn := h.connected
  rw [← Exchange.backend_carryOut e d] at hroomy hconn
  cases hd with
  | skip _ hn hw =>
    -- whoever is idle is served
    obtain ⟨-, -, -, hmem, -⟩ := h.exists_idle (h.kept.sound.idle_of_next hn)
    exact absurd hmem hw
  | @hand env _ w ready hp hn hw ha =>
    obtain ⟨t, ht, rfl, -, hduty⟩ := h.exists_idle (h.kept.sound.idle_of_next hn)
    have henv : env.client ≠ [] := h.kept.addressed env (by simp [hp])
    refine ⟨hkept, htidy, h.stationed_hand ht hn hw ha henv rfl, ?_, hroomy, hconn,
      fun hs => by cases hs' hs⟩
    -- the worker that is handed the request has no other
    simp only [Ledger.hand, List.map_append, List.map_cons, List.map_nil]
    refine List.nodup_append.2 ⟨h.single, by simp, ?_⟩
    rintro v hv _ hw' rfl
    rw [List.mem_singleton.1 hw'] at hv
    exact Ledger.duty_eq_none.1 hduty hv
  | @giveUp _ _ w ready _ hp hn hw ha hl =>
    subst hl
    have hidle := h.kept.sound.idle_of_next hn
    obtain ⟨t, ht, rfl, -, -⟩ := h.exists_idle hidle
    have hdead : ∀ u ∈ ts, u.id = t.id → ¬ u.Alive := by
      intro u hu heq hal
      obtain ⟨-, -, -, hacc⟩ := h.inbox_of_idle hu (heq ▸ hidle)
      rw [heq, ha] at hacc
      exact Bool.false_ne_true (hacc.2 hal)
    refine ⟨hkept, htidy, h.stationed_giveUp ht hn (hdead t ht rfl) rfl, ?_, hroomy, hconn,
      fun hs u hu hal => ?_⟩
    · simpa [Ledger.hand] using h.single
    · -- whoever is alive is served, and is not the one that was given up
      have hmem := h.served hu hal
      have hne : u.id ≠ t.id := fun heq => hdead u hu heq hal
      have hnil := of_decide_eq_true (hs' hs)
      exact List.ne_nil_of_mem (List.mem_filter.2 ⟨hmem, by simpa using hne⟩) hnil

/-- The broker takes the message of a client. -/
lemma serve {rest : Channel Multipart} (h : Manned P ts ⟨e, s, g⟩) :
    Manned P ts
      ⟨Exchange.attend { e with frontend := rest } (.client m), .dispatching,
        g.attend { e with frontend := rest } (.client m)⟩ := by
  have hready : (e.broker.receiveClient m).ready = e.broker.ready := by
    unfold Broker.receiveClient
    split <;> rfl
  have hworkers : (e.broker.receiveClient m).workers = e.broker.workers := by
    unfold Broker.receiveClient
    split <;> rfl
  have hout : (g.take m).outstanding = g.outstanding := by
    unfold Ledger.take
    split <;> rfl
  have hv : (Exchange.attend { e with frontend := rest } (.client m)).view
      (g.attend { e with frontend := rest } (.client m)) = e.view g := by
    funext v
    simp only [Exchange.view, Exchange.attend, Exchange.receiveClient, Exchange.inbox?,
      Ledger.attend, Ledger.duty, hready, hworkers, hout]
  refine ⟨?_, ?_, hv ▸ h.stationed, ?_, h.roomy, h.connected, fun hs => by cases hs⟩
  · have hkept : BrokerLoop.Kept ⟨{ e with frontend := rest }, .polling, g⟩ := h.kept.congr rfl
    exact hkept.attend rfl
  · exact Exchange.Tidy.attend (e := { e with frontend := rest }) h.tidy (.client m)
  · simpa only [Ledger.attend, hout] using h.single

end Manned

/-- Every step of the broker keeps the pool manned. -/
lemma BrokerLoop.Step.manned {P : Shared → Prop} {ts : List Thread} {l l' : BrokerLoop}
    (st : l.Step l') (h : Manned P ts l) : Manned P ts l' := by
  cases st with
  | attend ho he =>
    cases ho with
    | worker hr => exact h.hear hr
    | client => exact h.serve
    | _ => simp [Exchange.Event.loopEnd?] at he
  | finish ho he =>
    cases ho with
    | worker => simp [Exchange.Event.loopEnd?] at he
    | client => simp [Exchange.Event.loopEnd?] at he
    | workersGone hr =>
      -- the way to the broker is open as long as a thread is alive
      obtain ⟨-, hclosed⟩ := Channel.receive_eq_closed hr
      refine h.congr rfl rfl rfl fun _ t ht ha => ?_
      exact Bool.false_ne_true (hclosed.symm.trans (h.connected t ht ha))
    | _ =>
      cases he
      exact h.congr rfl rfl rfl fun hs => by cases hs
  | round hd hg => exact h.round hd fun hs => by cases hs
  | lastRound hd hg => exact h.round hd fun _ => hg
  | rest => exact h.congr rfl rfl rfl fun hs => by cases hs
  | rebuild => exact h.congr rfl rfl rfl fun hs => by cases hs
  | stop => exact h.congr rfl rfl rfl fun hs => by cases hs

/-- The broker's steps leave the pool manned. -/
lemma BrokerLoop.Run.manned {P : Shared → Prop} {ts : List Thread} {l l' : BrokerLoop}
    (hr : l.Run l') (h : Manned P ts l) : Manned P ts l' := by
  induction hr with
  | refl => exact h
  | tail _ st ih => exact st.manned ih

/-! ### Steps of the threads -/

/-- Sending leaves the capacity. -/
@[simp] lemma Channel.capacity_send {α : Type} (c : Channel α) (a : α) :
    (c.send a).capacity = c.capacity := by
  unfold send
  split <;> rfl

/-- Sending does not close the sender's side. -/
@[simp] lemma Channel.senderOpen_send {α : Type} (c : Channel α) (a : α) :
    (c.send a).senderOpen = c.senderOpen := by
  unfold send
  split <;> rfl

/-- Sending does not close the receiver's side. -/
@[simp] lemma Channel.receiverOpen_send {α : Type} (c : Channel α) (a : α) :
    (c.send a).receiverOpen = c.receiverOpen := by
  unfold send
  split <;> rfl

/-- The inboxes stay tidy when that of a served worker changes, or when none is opened. -/
lemma Exchange.Tidy.updateInbox {e : Exchange} {w : WorkerId}
    {f : Channel Multipart → Channel Multipart} (h : e.Tidy)
    (hf : w ∈ e.broker.workers ∨ ∀ c, (f c).senderOpen = c.senderOpen) :
    (e.updateInbox w f).Tidy := by
  intro i hi hw
  obtain ⟨j, hj, rfl⟩ := List.mem_map.1 hi
  by_cases hjw : j.1 = w
  · subst hjw
    simp only [if_true] at hw ⊢
    obtain hmem | hsame := hf
    · exact absurd hmem hw
    · rw [hsame]
      exact h j hj hw
  · simp only [hjw, if_false] at hw ⊢
    exact h j hj hw

namespace Manned

variable {P : Shared → Prop} {ts : List Thread} {e e' : Exchange} {g : Ledger} {s : LoopStage}
  {t t' : Thread} {i : Nat}

/-- A thread makes a move of its own. -/
lemma move (h : Manned P ts ⟨e, s, g⟩) (hi : ts[i]? = some t) (ha : t.Alive)
    (hid : t'.id = t.id) (hb : e'.broker = e.broker) (htidy : e'.Tidy)
    (hroomy : e'.backend.capacity = e.backend.capacity ∧
      e'.backend.receiverOpen = e.backend.receiverOpen)
    (hopen : ∀ u ∈ ts.set i t', u.Alive → e'.backend.senderOpen = e.backend.senderOpen)
    (self : Fits P t'.worker (e'.view g t.id) t'.activity)
    (others : ∀ v, v ≠ t.id → e'.view g v = e.view g v) : Manned P (ts.set i t') ⟨e', s, g⟩ where
  kept := h.kept.congr hb
  tidy := htidy
  stationed := h.stationed.set hi hid self others
  single := h.single
  roomy := by simpa only [hroomy] using h.roomy
  connected u hu hal := (hopen u hu hal).trans (h.connected t (List.mem_of_getElem? hi) ha)
  gone hs := absurd ha (h.gone hs t (List.mem_of_getElem? hi))

/-- A thread sends a message. -/
lemma tell {m : Multipart} (h : Manned P ts ⟨e, s, g⟩) (hi : ts[i]? = some t) (ha : t.Alive)
    (hid : t'.id = t.id) (hm : m.head? = some t.id.frame)
    (self : Fits P t'.worker { e.view g t.id with sent := (e.view g t.id).sent ++ [m] }
      t'.activity) : Manned P (ts.set i t') ⟨e.tell m, s, g⟩ := by
  obtain ⟨hc, hr⟩ := h.roomy
  have ho := Channel.offer_of_unlimited hc (h.connected t (List.mem_of_getElem? hi) ha) hr
  refine h.move hi ha hid rfl h.tidy (by simp [Exchange.tell]) (by simp [Exchange.tell]) ?_ ?_
  · rwa [Exchange.view_tell_self ho hm]
  · intro v hv
    refine Exchange.view_tell_of_ne fun hm' => hv ?_
    have hf : t.id.frame = v.frame := Option.some.inj (hm.symm.trans hm')
    cases v
    exact congrArg WorkerId.mk hf.symm

end Manned

namespace Pool

variable {P : Shared → Prop} {s s' : Pool}

/-- What holds of a pool in every state of a run. -/
abbrev Inv (P : Shared → Prop) (s : Pool) : Prop := Manned P s.threads s.loop

/-- Every step keeps the pool manned. -/
lemma Step.manned (st : s.Step s') (h : s.Inv P) (hs : P s.shared) : s'.Inv P := by
  -- what a thread does fits by the lemma about its move, and concerns no other worker
  cases st with
  | broker hl => exact hl.manned h
  | @announce i w hi =>
    have hf := h.stationed.fits _ (List.mem_of_getElem? hi)
    exact Manned.tell h hi nofun rfl rfl hf.announce
  | @take i w c m rest hi hc hr =>
    have hf := h.stationed.fits _ (List.mem_of_getElem? hi)
    refine Manned.move (e := s.exchange) h hi nofun rfl rfl ?_ ⟨rfl, rfl⟩ (fun _ _ _ => rfl) ?_ ?_
    · exact h.tidy.updateInbox (.inl (h.served (List.mem_of_getElem? hi) nofun))
    · rw [Exchange.view_updateInbox_self]
      have hin : (s.exchange.view s.ledger w.id).inbox = some c := hc
      rw [hin]
      exact hf.take hin hr
    · exact fun v hv => Exchange.view_updateInbox_of_ne _ hv
  | @work i w m p hi =>
    have hf := h.stationed.fits _ (List.mem_of_getElem? hi)
    exact Manned.move h hi nofun rfl rfl h.tidy ⟨rfl, rfl⟩ (fun _ _ _ => rfl) (hf.work hs)
      fun _ _ => rfl
  | @reply i w m r w' hi =>
    have hf := h.stationed.fits _ (List.mem_of_getElem? hi)
    obtain ⟨hid, -, hr, hf'⟩ := hf.reply
    exact Manned.tell h hi nofun hid hr hf'
  | @fall i w a last hi ha hlast =>
    have hf := h.stationed.fits _ (List.mem_of_getElem? hi)
    refine Manned.move (e := s.exchange) h hi ha rfl rfl ?_ ?_ ?_ ?_ ?_
    · exact h.tidy.updateInbox (.inr fun _ => rfl)
    · cases last <;> exact ⟨rfl, rfl⟩
    · -- the way to the broker is closed when nobody is left
      intro u hu hal
      cases last with
      | false => rfl
      | true =>
        have hnone := List.all_eq_true.1 hlast.symm u hu
        simp [hal] at hnone
    · rw [Exchange.view_lose, Exchange.view_updateInbox_self]
      exact hf.ended
    · intro v hv
      rw [Exchange.view_lose, Exchange.view_updateInbox_of_ne _ hv]

/-! ### Runs -/

variable {workers : List Worker} {maxPending : Nat} {shared : Shared}

/-- The shared states that occur in runs. -/
def Sees (workers : List Worker) (maxPending : Nat) (shared : Shared) (state : Shared) : Prop :=
  ∃ s, Reachable workers maxPending shared s ∧ s.shared = state

/-- What there is of a worker that has just been started. -/
lemma view_start (workers : List Worker) (maxPending : Nat) (shared : Shared) (w : WorkerId) :
    (start workers maxPending shared).exchange.view {} w =
      if w ∈ workers.map (·.id) then ⟨[], none, some .vacant, true, none⟩ else .nobody := by
  have hi : (start workers maxPending shared).exchange.inbox? w =
      if w ∈ workers.map (·.id) then some .vacant else none := by
    simp only [start, Exchange.inbox?, List.find?_map, Option.map_map]
    change Option.map _ (workers.find? fun u => decide (u.id = w)) = _
    cases hf : workers.find? fun u => decide (u.id = w) with
    | none =>
      have hn : w ∉ workers.map (·.id) := by simpa using hf
      rw [if_neg hn]
      rfl
    | some u =>
      have hu : w ∈ workers.map (·.id) := by
        have hid : u.id = w := by simpa using List.find?_some hf
        exact hid ▸ List.mem_map_of_mem (List.mem_of_find?_eq_some hf)
      rw [if_pos hu]
      rfl
  by_cases hw : w ∈ workers.map (·.id)
  · rw [if_pos hw] at hi ⊢
    simp only [Exchange.view, hi]
    exact congrArg (View.mk [] none (some .vacant) · none) (decide_eq_true hw)
  · rw [if_neg hw] at hi ⊢
    simp only [Exchange.view, hi]
    exact congrArg (View.mk [] none none · none) (decide_eq_false hw)

/-- The pool is manned at its start. -/
lemma start_manned {P : Shared → Prop} (hn : (workers.map (·.id)).Nodup) :
    (start workers maxPending shared).Inv P where
  kept := ⟨.empty, by simp [start, Broker.Addressed], rfl⟩
  tidy := by
    intro i hi hw
    obtain ⟨w, hmem, rfl⟩ := List.mem_map.1 hi
    exact absurd (List.mem_map_of_mem hmem) hw
  stationed := by
    have hids : (start workers maxPending shared).threads.map Thread.id = workers.map (·.id) := by
      simp [start]
    refine ⟨hids ▸ hn, fun t ht => ?_, fun w hw => ?_⟩
    · obtain ⟨w, hw, rfl⟩ := List.mem_map.1 ht
      have hv := view_start workers maxPending shared w.id
      rw [if_pos (List.mem_map_of_mem hw)] at hv
      change Fits P w ((start workers maxPending shared).exchange.view {} w.id) .starting
      rw [hv]
      exact .away
    · rw [hids] at hw
      have hv := view_start workers maxPending shared w
      rwa [if_neg hw] at hv
  single := .nil
  roomy := ⟨rfl, rfl⟩
  connected := by
    intro t ht _
    obtain ⟨w, hw, rfl⟩ := List.mem_map.1 ht
    cases workers with
    | nil => cases hw
    | cons => rfl
  gone := nofun

/-- The pool is manned in every run, with any property that the shared states of runs have. -/
lemma Reachable.manned_of {P : Shared → Prop} (h : Reachable workers maxPending shared s)
    (hn : (workers.map (·.id)).Nodup)
    (hP : ∀ s, Reachable workers maxPending shared s → P s.shared) : s.Inv P := by
  induction h with
  | start => exact start_manned hn
  | step hr st ih => exact st.manned ih (hP _ hr)
  | outside _ ho ih =>
    obtain ⟨hb, hk, hi⟩ := ho
    exact Manned.congr ih hb hk hi ih.gone

/-- The pool is manned in every run. -/
lemma Reachable.manned (h : Reachable workers maxPending shared s)
    (hn : (workers.map (·.id)).Nodup) : s.Inv (Sees workers maxPending shared) :=
  h.manned_of hn fun s hs => ⟨s, hs, rfl⟩

end Pool

end Wayfinding
