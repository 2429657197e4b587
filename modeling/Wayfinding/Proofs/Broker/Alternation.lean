import Wayfinding.Proofs.Broker.Noise

/-!
# Requests and replies in turn

A worker is to be handed no request before its reply to the last one. The broker sees to this as
long as a worker keeps quiet while it has a request. One that announces itself meanwhile waits in
the ready queue at once: the next request that comes to it finds the last one unanswered, and is
either handed to it as well or costs it its place. Announcements of idle workers are ignored.

Main definitions:
* `Dealing`: what passes between the broker and a worker.
* `BrokerLoop.Diary`: runs with the dealings in them.
* `Dealing.Alternates`: a worker is not asked before it has replied.

Main statement: `BrokerLoop.Diary.alternates_iff`.
-/

namespace Wayfinding

/-- What passes between the broker and a worker. -/
inductive Dealing where
  /-- The broker hears that the worker is ready. -/
  | announced (w : WorkerId)
  | replied (w : WorkerId)
  | handed (w : WorkerId)
  /-- The worker does not accept the request that it is to have, and is given up. -/
  | givenUp (w : WorkerId)
deriving DecidableEq

namespace Dealing

variable {v w : WorkerId} {d : Dealing} {ds : List Dealing} {s : Option WorkerState}

/-- The worker that something is dealt with. -/
def worker : Dealing → WorkerId
  | announced w => w
  | replied w => w
  | handed w => w
  | givenUp w => w

/-- The worker that a request is handed to. -/
def handedTo? : Dealing → Option WorkerId
  | handed w => some w
  | _ => none

/-- The broker turns to a worker with a request. -/
def Asks (w : WorkerId) (d : Dealing) : Prop := d = handed w ∨ d = givenUp w

/-- Before the broker turns to a worker again it has taken the reply to what it handed to it. -/
def Alternates (w : WorkerId) (ds : List Dealing) : Prop :=
  ∀ later d between earlier, ds = later ++ d :: (between ++ handed w :: earlier) → d.Asks w →
    replied w ∈ between

/-- After whatever it was handed, a worker has replied or announced itself. -/
def Called (w : WorkerId) (ds : List Dealing) : Prop :=
  ∀ between earlier, ds = between ++ handed w :: earlier →
    replied w ∈ between ∨ announced w ∈ between

/-- A worker was handed a request, and nothing has come from it since. -/
def Engaged (w : WorkerId) (ds : List Dealing) : Prop :=
  ∃ between earlier, ds = between ++ handed w :: earlier ∧ ∀ d ∈ between, d.worker ≠ w

/-- What the state of a worker says about the dealings with it. -/
def Fits (w : WorkerId) (ds : List Dealing) : Option WorkerState → Prop
  | some .idle => Called w ds
  | some .busy => Engaged w ds
  | none => handed w ∉ ds

/-- Who announces itself or replies may be called. -/
lemma called_cons (h : d = announced w ∨ d = replied w) : Called w (d :: ds) := by
  intro between earlier hds
  cases between with
  | nil =>
    obtain rfl | rfl := h <;> cases hds
  | cons d' between =>
    cases hds
    obtain rfl | rfl := h
    · exact .inr List.mem_cons_self
    · exact .inl List.mem_cons_self

/-- Dealings with others do not matter. -/
lemma Fits.cons_of_ne (h : Fits w ds s) (hd : d.worker ≠ w) : Fits w (d :: ds) s := by
  cases s with
  | none =>
    intro hmem
    cases hmem with
    | head => exact hd rfl
    | tail _ hmem => exact h hmem
  | some s =>
    cases s with
    | idle =>
      intro between earlier hds
      cases between with
      | nil =>
        cases hds
        exact absurd rfl hd
      | cons d' between =>
        cases hds
        obtain hr | ha := h between earlier rfl
        · exact .inl (List.mem_cons_of_mem _ hr)
        · exact .inr (List.mem_cons_of_mem _ ha)
    | busy =>
      obtain ⟨between, earlier, rfl, hb⟩ := h
      exact ⟨d :: between, earlier, rfl, List.forall_mem_cons.2 ⟨hd, hb⟩⟩

end Dealing

namespace Broker

/-- What the broker hears from a worker when it attends to something. -/
def heard (b : Broker) : Exchange.Event → Option Dealing
  | .worker (identity :: rest) =>
    if ⟨identity⟩ ∈ b.workers then
      if rest = [readyFrame] then some (.announced ⟨identity⟩)
      else if (Envelope.parse rest).isOk then some (.replied ⟨identity⟩)
      else none
    else none
  | _ => none

end Broker

/-- What comes of the next round of a dispatch. -/
def Exchange.asked (e : Exchange) : Option Dealing :=
  match e.broker.ready.next? with
  | some (w, _) =>
    if w ∈ e.broker.workers then some (if e.accepts w then .handed w else .givenUp w) else none
  | none => none

namespace BrokerLoop

open Dealing

/-- The runs of fresh brokers, with the dealings in each, the latest first. -/
inductive Diary : List Dealing → BrokerLoop → Prop where
  | start {e : Exchange} :
    e.broker.ready = {} →
    e.broker.pending = [] →
    Diary [] ⟨e, .polling, {}⟩
  | attend {ds : List Dealing} {e r : Exchange} {g : Ledger} {event : Exchange.Event} :
    Diary ds ⟨e, .polling, g⟩ →
    e.Offers event r →
    event.loopEnd? = none →
    Diary ((r.broker.heard event).toList ++ ds)
      ⟨r.attend event, .dispatching, g.attend r event⟩
  | round {ds : List Dealing} {e : Exchange} {g : Ledger} {d : Broker.Dispatch} {s : LoopStage} :
    Diary ds ⟨e, .dispatching, g⟩ →
    e.broker.Round e.accepts d →
    Step ⟨e, .dispatching, g⟩ ⟨e.carryOut d, s, g.hand d.handOffs⟩ →
    Diary (e.asked.toList ++ ds) ⟨e.carryOut d, s, g.hand d.handOffs⟩
  | pause {ds : List Dealing} {l l' : BrokerLoop} :
    Diary ds l →
    Step l l' →
    l'.stage ≠ .dispatching →
    l'.exchange.broker = l.exchange.broker →
    Diary ds l'
  | outside {ds : List Dealing} {e r : Exchange} {s : LoopStage} {g : Ledger} :
    Diary ds ⟨e, s, g⟩ →
    r.broker = e.broker →
    Diary ds ⟨r, s, g⟩

variable {b b' : Broker} {d : Dealing} {ds : List Dealing} {e r : Exchange} {g : Ledger}
  {l l' : BrokerLoop} {m : Multipart} {v w : WorkerId}

/-- Each diary is of a run. -/
lemma Diary.reachable (h : Diary ds l) : Reachable l := by
  induction h with
  | start hr hp => exact .start hr hp
  | attend _ ho hn ih => exact ih.step (.attend ho hn)
  | round _ _ st ih => exact ih.step st
  | pause _ st _ _ ih => exact ih.step st
  | outside _ hb ih => exact ih.outside hb

/-- One more step goes on with the diary. -/
lemma Diary.step (h : Diary ds l) (st : Step l l') : ∃ ds', Diary ds' l' := by
  cases st with
  | attend ho hn => exact ⟨_, h.attend ho hn⟩
  | finish ho hhow => exact ⟨_, h.pause (.finish ho hhow) nofun ho.broker⟩
  | round hd hg => exact ⟨_, h.round hd (.round hd hg)⟩
  | lastRound hd hg => exact ⟨_, h.round hd (.lastRound hd hg)⟩
  | rest hq => exact ⟨_, h.pause (.rest hq) nofun rfl⟩
  | rebuild => exact ⟨_, h.pause .rebuild nofun rfl⟩
  | stop hs => exact ⟨_, h.pause (.stop hs) nofun rfl⟩

/-- Each run has a diary, and each diary is of a run. -/
lemma reachable_iff_diary : Reachable l ↔ ∃ ds, Diary ds l := by
  refine ⟨fun h => ?_, fun ⟨_, h⟩ => h.reachable⟩
  induction h with
  | start hr hp => exact ⟨[], .start hr hp⟩
  | step _ st ih =>
    obtain ⟨ds, hd⟩ := ih
    exact hd.step st
  | outside _ hb ih =>
    obtain ⟨ds, hd⟩ := ih
    exact ⟨ds, hd.outside hb⟩

/-- What the broker knows about its workers, and when it has asked them. -/
structure Tracked (ds : List Dealing) (b : Broker) : Prop where
  sound : b.ready.Sound
  fits : ∀ w ∈ b.workers, Fits w ds (b.ready.state? w)
  called : ∀ later d before w, ds = later ++ d :: before → d.Asks w → Called w before

namespace Tracked

/-- Only the ready queue and the workers matter. -/
lemma congr (h : Tracked ds b) (hr : b'.ready = b.ready) (hw : b'.workers = b.workers) :
    Tracked ds b' :=
  ⟨hr ▸ h.sound, hr ▸ hw ▸ h.fits, h.called⟩

/-- One more dealing, after which the states of the workers fit. -/
lemma cons (h : Tracked ds b) (hs : b'.ready.Sound)
    (hf : ∀ w ∈ b'.workers, Fits w (d :: ds) (b'.ready.state? w))
    (hd : ∀ w, d.Asks w → Called w ds) : Tracked (d :: ds) b' where
  sound := hs
  fits := hf
  called := by
    intro later d' before w hds ha
    cases later with
    | nil =>
      cases hds
      exact hd w ha
    | cons d'' later =>
      cases hds
      exact h.called later d' before w rfl ha

/-- A worker that is made idle has called. -/
lemma markReady (h : Tracked ds b) (hd : d = announced w ∨ d = replied w) :
    Tracked (d :: ds) { b with ready := (b.ready.markReady w).2 } := by
  refine h.cons (h.sound.markReady w) (fun v hv => ?_) fun v ha => ?_
  · by_cases hvw : v = w
    · subst hvw
      rw [ReadyQueue.state?_markReady_self]
      exact called_cons hd
    · rw [ReadyQueue.state?_markReady_of_ne hvw]
      refine (h.fits v hv).cons_of_ne ?_
      obtain rfl | rfl := hd
      · exact Ne.symm hvw
      · exact Ne.symm hvw
  · obtain rfl | rfl := hd
    · obtain ha | ha := ha <;> cases ha
    · obtain ha | ha := ha <;> cases ha

/-- A reply of a worker that has no request changes nothing. -/
lemma release (h : Tracked ds b) : Tracked (replied w :: ds) (b.release w) := by
  unfold Broker.release
  split
  · exact h.markReady (.inr rfl)
  · next hbusy =>
    refine h.cons h.sound (fun v hv => ?_) fun v ha => ?_
    · by_cases hvw : v = w
      · subst hvw
        have hf := h.fits v hv
        cases hst : b.ready.state? v with
        | none =>
          rw [hst] at hf
          exact List.not_mem_cons_of_ne_of_not_mem nofun hf
        | some s =>
          cases s with
          | idle => exact called_cons (.inr rfl)
          | busy => exact absurd hst hbusy
      · exact (h.fits v hv).cons_of_ne (Ne.symm hvw)
    · obtain ha | ha := ha <;> cases ha

/-- What a worker says is tracked. -/
lemma hear (h : Tracked ds b) (m : Multipart) :
    Tracked ((b.heard (.worker m)).toList ++ ds) (b.receiveWorker m).1 := by
  cases m with
  | nil => exact h
  | cons identity rest =>
    by_cases hw : ⟨identity⟩ ∈ b.workers
    · by_cases hr : rest = [Broker.readyFrame]
      · simpa [Broker.heard, Broker.receiveWorker, Broker.receiveKnown, hw, hr] using
          h.markReady (.inl rfl)
      · cases hp : Envelope.parse rest with
        | ok e =>
          simpa [Broker.heard, Broker.receiveWorker, Broker.receiveKnown, hw, hr, hp,
            Except.isOk, Except.toBool] using h.release
        | error =>
          simpa [Broker.heard, Broker.receiveWorker, Broker.receiveKnown, hw, hr, hp,
            Except.isOk, Except.toBool] using h
    · simpa [Broker.heard, Broker.receiveWorker, hw] using h

/-- Whom a round asks has called. -/
lemma round {d : Broker.Dispatch} (h : Tracked ds e.broker) (hd : e.broker.Round e.accepts d) :
    Tracked (e.asked.toList ++ ds) d.broker := by
  cases hd with
  | @skip _ _ w ready _ hn hw =>
    obtain ⟨-, -, hothers⟩ := ReadyQueue.next?_eq_some hn
    have hasked : e.asked = none := by simp [Exchange.asked, hn, hw]
    rw [hasked]
    refine ⟨h.sound.next hn, fun v hv => ?_, h.called⟩
    have hvw : v ≠ w := fun hvw => hw (hvw ▸ hv)
    rw [hothers v hvw]
    exact h.fits v hv
  | @hand _ _ w ready _ hn hw hacc =>
    obtain ⟨-, hbusy, hothers⟩ := ReadyQueue.next?_eq_some hn
    have hasked : e.asked = some (handed w) := by simp [Exchange.asked, hn, hw, hacc]
    have hidle := h.fits w hw
    rw [h.sound.idle_of_next hn] at hidle
    rw [hasked]
    refine h.cons (h.sound.next hn) (fun v hv => ?_) fun v ha => ?_
    · by_cases hvw : v = w
      · subst hvw
        rw [hbusy]
        exact ⟨[], ds, rfl, nofun⟩
      · rw [hothers v hvw]
        exact (h.fits v hv).cons_of_ne (Ne.symm hvw)
    · obtain ha | ha := ha
      · cases ha
        exact hidle
      · cases ha
  | @giveUp _ _ w ready _ _ hn hw hacc hl =>
    obtain ⟨-, hbusy, hothers⟩ := ReadyQueue.next?_eq_some hn
    have hasked : e.asked = some (givenUp w) := by simp [Exchange.asked, hn, hw, hacc]
    have hidle := h.fits w hw
    rw [h.sound.idle_of_next hn] at hidle
    rw [hasked]
    subst hl
    refine h.cons ((h.sound.next hn).remove w) (fun v hv => ?_) fun v ha => ?_
    · obtain ⟨hv, hvw⟩ : v ∈ e.broker.workers ∧ v ≠ w := by simpa [Broker.forget] using hv
      have hst : (ready.remove w).state? v = e.broker.ready.state? v :=
        (ReadyQueue.state?_remove_of_ne hvw).trans (hothers v hvw)
      change Fits v _ ((ready.remove w).state? v)
      rw [hst]
      exact (h.fits v hv).cons_of_ne (Ne.symm hvw)
    · obtain ha | ha := ha
      · cases ha
      · cases ha
        exact hidle

end Tracked

/-- The broker is tracked in every run. -/
lemma Diary.tracked (h : Diary ds l) : Tracked ds l.exchange.broker := by
  induction h with
  | start hr _ =>
    refine ⟨hr ▸ .empty, fun w _ => ?_, fun later d before w hds => ?_⟩
    · rw [hr]
      exact List.not_mem_nil
    · cases later <;> cases hds
  | @attend ds e r g event _ ho hn ih =>
    have hr : Tracked ds r.broker := ih.congr (by rw [ho.broker]) (by rw [ho.broker])
    cases event with
    | stop => cases hn
    | fail => cases hn
    | worker m =>
      simp only [Exchange.attend, Exchange.broker_receiveWorker]
      exact hr.hear m
    | client m =>
      simp only [Exchange.attend, Exchange.receiveClient, Broker.receiveClient, Broker.heard]
      cases Envelope.parse m with
      | error => exact hr
      | ok _ => exact hr.congr rfl rfl
  | round _ hd _ ih =>
    rw [Exchange.broker_carryOut]
    exact ih.round hd
  | pause _ _ _ hb ih => exact hb ▸ ih
  | outside _ hb ih => exact hb ▸ ih

/-- Who was handed a request and has not replied waits for another as soon as it has announced
itself. -/
lemma Tracked.mem_queue_iff {between earlier : List Dealing} (h : Tracked ds b)
    (hw : w ∈ b.workers) (hds : ds = between ++ handed w :: earlier) (hh : handed w ∉ between)
    (hr : replied w ∉ between) : w ∈ b.ready.queue ↔ announced w ∈ between := by
  have hf := h.fits w hw
  rw [h.sound.mem_iff]
  cases hst : b.ready.state? w with
  | none =>
    rw [hst] at hf
    exact absurd (hds ▸ List.mem_append_right _ List.mem_cons_self) hf
  | some s =>
    rw [hst] at hf
    cases s with
    | idle =>
      obtain hr' | ha := hf between earlier hds
      · exact absurd hr' hr
      · exact iff_of_true rfl ha
    | busy =>
      obtain ⟨between', earlier', hds', hquiet⟩ := hf
      refine iff_of_false nofun fun ha => ?_
      obtain ⟨c, rfl, -⟩ | ⟨c, rfl, hc⟩ := List.append_eq_append_iff.1 (hds.symm.trans hds')
      · exact hquiet _ (List.mem_append_left c ha) rfl
      · -- the two hand-overs are the same, as there is none in between
        cases c with
        | nil =>
          rw [List.append_nil] at ha
          exact hquiet _ ha rfl
        | cons d' c =>
          cases hc
          exact hh (List.mem_append_right _ List.mem_cons_self)

/-! ### The diary and the ledger -/

/-- No event hands out a request. -/
lemma handed_attend (g : Ledger) (e : Exchange) (event : Exchange.Event) :
    (g.attend e event).handed = g.handed := by
  cases event with
  | stop => rfl
  | fail => rfl
  | worker m => exact (g.attend_worker e m).2
  | client m =>
    simp only [Ledger.attend, Ledger.take]
    cases Envelope.parse m <;> rfl

/-- What is heard is no request handed out. -/
lemma handedTo?_heard (b : Broker) (event : Exchange.Event) :
    (b.heard event).toList.filterMap handedTo? = [] := by
  unfold Broker.heard
  grind [handedTo?]

/-- A round asks those to whom it hands out. -/
lemma handedTo?_asked {d : Broker.Dispatch} (hd : e.broker.Round e.accepts d) :
    e.asked.toList.filterMap handedTo? = d.handOffs.map (·.worker) := by
  cases hd with
  | skip _ hn hw => simp [Exchange.asked, hn, hw]
  | hand _ hn hw hacc => simp [Exchange.asked, hn, hw, hacc, handedTo?]
  | giveUp _ hn hw hacc _ => simp [Exchange.asked, hn, hw, hacc, handedTo?]

/-- The diary has the requests that were handed over. -/
lemma Diary.handed_eq (h : Diary ds l) :
    ds.reverse.filterMap handedTo? = l.ledger.handed.map (·.worker) := by
  induction h with
  | start _ _ => rfl
  | @attend _ _ r _ event _ _ _ ih =>
    have hheard := handedTo?_heard r.broker event
    cases hd : r.broker.heard event <;> simp_all [handed_attend]
  | @round _ e _ _ _ _ hd _ ih =>
    have hasked := handedTo?_asked hd
    cases ha : e.asked <;> simp_all [Ledger.hand]
  | pause _ st hs _ ih =>
    cases st with
    | attend => exact absurd rfl hs
    | round => exact absurd rfl hs
    | lastRound hd hg =>
      cases hd with
      | skip => cases hg
      | hand => cases hg
      | giveUp => simpa [Ledger.hand] using ih
    | finish => exact ih
    | rest => exact ih
    | rebuild => exact ih
    | stop => exact ih
  | outside _ _ ih => exact ih

/-- In every run, a worker is asked again before it has replied only where the broker has heard an
announcement from it in between, and one that has a request waits for another exactly from its
announcement on. Announcements of workers that wait anyway change nothing. The requests in the diary
are those that were handed over. -/
theorem Diary.alternates_iff (h : Diary ds l) (w : WorkerId) :
    (Alternates w ds ↔
      ∀ later d between earlier, ds = later ++ d :: (between ++ handed w :: earlier) → d.Asks w →
        announced w ∈ between → replied w ∈ between) ∧
      (∀ between earlier, w ∈ l.exchange.broker.workers → ds = between ++ handed w :: earlier →
        handed w ∉ between → replied w ∉ between →
          (w ∈ l.exchange.broker.ready.queue ↔ announced w ∈ between)) ∧
      (∀ r, w ∈ l.exchange.broker.ready.queue →
        l.exchange.Offers (.worker (Broker.readyMessage w)) r →
          r.attend (.worker (Broker.readyMessage w)) = r ∧
            l.ledger.attend r (.worker (Broker.readyMessage w)) = l.ledger) ∧
      ds.reverse.filterMap handedTo? = l.ledger.handed.map (·.worker) := by
  have ht := h.tracked
  refine ⟨⟨fun ha later d between earlier hds hd _ => ha later d between earlier hds hd, ?_⟩,
    fun between earlier hw hds => ht.mem_queue_iff hw hds, ?_, h.handed_eq⟩
  · intro hcalled later d between earlier hds hd
    obtain hr | ha := ht.called later d _ w hds hd between earlier rfl
    · exact hr
    · exact hcalled later d between earlier hds hd ha
  · intro r hq ho
    have hidle : r.broker.ready.state? w = some .idle := by
      rw [ho.broker]
      exact (ht.sound.mem_iff w).1 hq
    exact ⟨Exchange.attend_noise (.repeated hidle), Ledger.attend_noise (.repeated hidle) _⟩

/-! ### A patient worker and a hasty one -/

/-- One worker, and two requests for it. -/
def counter : Exchange where
  broker := { workers := [⟨[0]⟩], maxPending := 2 }
  frontend := { queued := [[[7], [], [1]], [[7], [], [2]]] }
  inboxes := [(⟨[0]⟩, { capacity := some 1 })]

/-- The worker announces itself twice before there is anything to do, and replies to the first
request before it is handed the second. -/
def patientDealings : List Dealing :=
  [handed ⟨[0]⟩, replied ⟨[0]⟩, handed ⟨[0]⟩, announced ⟨[0]⟩, announced ⟨[0]⟩]

/-- The patient worker was handed nothing before its announcements, so that it is asked only after
its reply. -/
theorem alternates_patient : ∃ l,
    Diary patientDealings l ∧
      l.ledger.handed = [⟨⟨[0]⟩, [[7], [], [1]]⟩, ⟨⟨[0]⟩, [[7], [], [2]]⟩] ∧
        Alternates ⟨[0]⟩ patientDealings := by
  have started : Diary [] ⟨counter, .polling, {}⟩ := .start rfl rfl
  have told := started.outside (r := { counter with
    backend := { queued := [Broker.readyMessage ⟨[0]⟩, Broker.readyMessage ⟨[0]⟩] } }) rfl
  have ready := (told.attend (.worker rfl) rfl).pause (.rest (.inl rfl)) nofun rfl
  have repeated := (ready.attend (.worker rfl) rfl).pause (.rest (.inl rfl)) nofun rfl
  have first := repeated.attend (.client (by decide) rfl) rfl
  have busy := (first.round (.hand rfl rfl (by decide) (by decide))
    (.round (.hand rfl rfl (by decide) (by decide)) rfl)).pause (.rest (.inl rfl)) nofun rfl
  have waiting := (busy.attend (.client (by decide) rfl) rfl).pause (.rest (.inr rfl)) nofun rfl
  have done := waiting.outside (r := { counter with
    broker := _, backend := { queued := [[[0], [7], [], [5]]] } }) rfl
  have second := (done.attend (.worker rfl) rfl).round (.hand rfl rfl (by decide) (by decide))
    (.round (.hand rfl rfl (by decide) (by decide)) rfl)
  have written : Diary patientDealings _ := second
  refine ⟨_, written, rfl, (written.alternates_iff ⟨[0]⟩).1.2 ?_⟩
  intro later d between earlier hds hd ha
  have hsub : [announced ⟨[0]⟩, handed ⟨[0]⟩].Sublist patientDealings := by
    rw [hds]
    refine List.Sublist.trans ?_ (List.sublist_append_right _ _)
    exact ((List.singleton_sublist.2 ha).append
      (List.singleton_sublist.2 List.mem_cons_self)).cons d
  exact absurd hsub (by decide)

/-- The worker announces itself when both requests wait, and once more when it has the first. If it
has taken that from its inbox, it is handed the second request as well; if not, it is given up and
nobody is left. -/
theorem not_alternates_hasty :
    (∃ ds l, Diary ds l ∧ ¬Alternates ⟨[0]⟩ ds ∧
      l.ledger.handed = [⟨⟨[0]⟩, [[7], [], [1]]⟩, ⟨⟨[0]⟩, [[7], [], [2]]⟩]) ∧
      ∃ ds l, Diary ds l ∧ ¬Alternates ⟨[0]⟩ ds ∧ l.exchange.broker.workers = [] ∧
        l.stage = .ended (.failed .workersGone) := by
  have started : Diary [] ⟨counter, .polling, {}⟩ := .start rfl rfl
  have one := (started.attend (.client (by decide) rfl) rfl).pause (.rest (.inr rfl)) nofun rfl
  have two := (one.attend (.client (by decide) rfl) rfl).pause (.rest (.inr rfl)) nofun rfl
  have told := two.outside (r := { counter with
    broker := _
    backend := { queued := [Broker.readyMessage ⟨[0]⟩, Broker.readyMessage ⟨[0]⟩] } }) rfl
  have first := told.attend (.worker rfl) rfl
  have busy := (first.round (.hand rfl rfl (by decide) (by decide))
    (.round (.hand rfl rfl (by decide) (by decide)) rfl)).pause (.rest (.inr rfl)) nofun rfl
  have again := busy.attend (.worker rfl) rfl
  refine ⟨?_, ?_⟩
  · have emptied := again.outside (r := { counter with broker := _ }) rfl
    have second := emptied.round (.hand rfl rfl (by decide) (by decide))
      (.round (.hand rfl rfl (by decide) (by decide)) rfl)
    refine ⟨_, _, second, fun h => ?_, rfl⟩
    have hr := h [] (handed ⟨[0]⟩) [announced ⟨[0]⟩] [announced ⟨[0]⟩] rfl (.inl rfl)
    cases List.mem_singleton.1 hr
  · have lost := again.round (.giveUp rfl rfl (by decide) (by decide) rfl)
      (.lastRound (.giveUp rfl rfl (by decide) (by decide) rfl) (by decide))
    refine ⟨_, _, lost, fun h => ?_, rfl, rfl⟩
    have hr := h [] (givenUp ⟨[0]⟩) [announced ⟨[0]⟩] [announced ⟨[0]⟩] rfl (.inr rfl)
    cases List.mem_singleton.1 hr

end BrokerLoop

end Wayfinding
