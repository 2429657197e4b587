import Wayfinding.Proofs.Broker.Loop

/-!
# Requests in order

The broker neither loses nor doubles nor reorders requests, whatever clients, workers and inboxes
do: what it took from clients is what it handed over, followed by what still waits. The reason is
that only messages with an address are taken, so that each can be put back when its worker does not
accept it.

Main statement: `BrokerLoop.Reachable.requests_in_order`.
-/

namespace Wayfinding

namespace Ledger

variable {g : Ledger} {w : WorkerId} {reply : Envelope} {r : Registry} {m : Multipart}

/-- An answer is no request that is taken. -/
@[simp] lemma taken_settle : (g.settle w reply).taken = g.taken := by
  unfold settle
  split <;> rfl

/-- An answer is no request that is handed out. -/
@[simp] lemma handed_settle : (g.settle w reply).handed = g.handed := by
  unfold settle
  split <;> rfl

/-- An answer is not delivered by being given. -/
@[simp] lemma delivered_settle : (g.settle w reply).delivered = g.delivered := by
  unfold settle
  split <;> rfl

/-- A delivery is no request that is taken. -/
@[simp] lemma taken_deliver : (g.deliver r reply).taken = g.taken := by
  unfold deliver
  grind

/-- A delivery is no request that is handed out. -/
@[simp] lemma handed_deliver : (g.deliver r reply).handed = g.handed := by
  unfold deliver
  grind

/-- Delivering leaves what is outstanding. -/
@[simp] lemma outstanding_deliver : (g.deliver r reply).outstanding = g.outstanding := by
  unfold deliver
  grind

/-- Delivering leaves what was answered. -/
@[simp] lemma answered_deliver : (g.deliver r reply).answered = g.answered := by
  unfold deliver
  grind

/-- The message of a worker is neither a request that is taken nor one that is handed over. -/
lemma attend_worker (g : Ledger) (e : Exchange) (m : Multipart) :
    (g.attend e (.worker m)).taken = g.taken ∧ (g.attend e (.worker m)).handed = g.handed := by
  simp only [attend]
  cases e.broker.reply? m <;> simp

end Ledger

namespace Exchange

variable {e : Exchange}

/-- Attending to the message of a worker leaves the broker that took it. -/
@[simp] lemma broker_receiveWorker (e : Exchange) (m : Multipart) :
    (e.receiveWorker m).broker = (e.broker.receiveWorker m).1 := by
  unfold receiveWorker deliver
  dsimp only
  split <;> rfl

/-- A request that is handed over is put at the end of its worker's inbox. -/
lemma inbox?_of_handOff {d : Broker.Dispatch} {o : Broker.HandOff}
    (h : e.broker.Round e.accepts d) (ho : o ∈ d.handOffs) :
    ∃ c, e.inbox? o.worker = some c ∧
      (e.carryOut d).inbox? o.worker = some { c with queued := c.queued ++ [o.request] } := by
  obtain ⟨hw, ha⟩ := h.handOff_mem ho
  rw [inbox?_carryOut]
  cases hi : e.inbox? o.worker with
  | none => simp [accepts, hi] at ha
  | some c =>
    refine ⟨c, rfl, ?_⟩
    have hc : c.offer = .sent := by simpa [accepts, hi] using ha
    cases h with
    | skip => simp at ho
    | hand =>
      obtain rfl : o = _ := by simpa using ho
      simp_all [Broker.Dispatch.fill, Channel.send]
    | giveUp => simp at ho

end Exchange

namespace BrokerLoop

/-- What the broker keeps of the requests that it took. -/
structure Kept (l : BrokerLoop) : Prop where
  sound : l.exchange.broker.ready.Sound
  addressed : l.exchange.broker.Addressed
  order :
    l.ledger.taken.map Envelope.frames =
      l.ledger.handed.map Broker.HandOff.request ++
        l.exchange.broker.pending.map Envelope.frames

/-- Only the broker and the ledger matter. -/
lemma Kept.congr {e e' : Exchange} {s s' : LoopStage} {g : Ledger} (h : Kept ⟨e, s, g⟩)
    (hb : e'.broker = e.broker) : Kept ⟨e', s', g⟩ :=
  ⟨hb ▸ h.sound, hb ▸ h.addressed, hb ▸ h.order⟩

/-- Attending to something keeps the requests. -/
lemma Kept.attend {r : Exchange} {event : Exchange.Event} {g : Ledger} {s s' : LoopStage}
    (h : Kept ⟨r, s, g⟩) (he : event.loopEnd? = none) :
    Kept ⟨r.attend event, s', g.attend r event⟩ := by
  cases event with
  | stop => simp [Exchange.Event.loopEnd?] at he
  | fail => simp [Exchange.Event.loopEnd?] at he
  | worker m =>
    obtain ⟨-, hp, -⟩ := r.broker.receiveWorker_fields m
    obtain ⟨ht, hh⟩ := g.attend_worker r m
    refine ⟨?_, ?_, ?_⟩
    · simpa [Exchange.attend] using Broker.receiveWorker_sound h.sound m
    · simpa [Exchange.attend, Broker.Addressed, hp] using h.addressed
    · simpa [Exchange.attend, hp, ht, hh] using h.order
  | client m =>
    simp only [Exchange.attend, Exchange.receiveClient, Broker.receiveClient, Ledger.attend,
      Ledger.take]
    cases hm : Envelope.parse m with
    | error =>
      -- what is no request is neither queued nor noted
      exact ⟨h.sound, h.addressed, h.order⟩
    | ok e =>
      obtain ⟨-, hne⟩ := Envelope.eq_frames_of_parse hm
      refine ⟨h.sound, ?_, ?_⟩
      · simp only [Broker.Addressed, List.mem_append, List.mem_singleton]
        rintro e' (he' | rfl)
        · exact h.addressed e' he'
        · exact hne
      · simp only [List.map_append, h.order, List.append_assoc]

/-- A round hands out requests in the order in which they were taken. -/
lemma Kept.round {e : Exchange} {d : Broker.Dispatch} {g : Ledger} {s s' : LoopStage}
    (h : Kept ⟨e, s, g⟩) (hd : e.broker.Round e.accepts d) :
    Kept ⟨e.carryOut d, s', g.hand d.handOffs⟩ where
  sound := by simpa using hd.sound h.sound
  addressed := by simpa using hd.addressed h.addressed
  order := by
    have hp := hd.pending h.addressed
    have ho := h.order
    simp only [Ledger.hand, Exchange.broker_carryOut, List.map_append, List.append_assoc]
    rw [ho, hp]

/-- Every step keeps the requests. -/
lemma Step.kept {l l' : BrokerLoop} (st : Step l l') (h : Kept l) : Kept l' := by
  cases st with
  | @attend e r g event ho he =>
    have hr : Kept ⟨r, .polling, g⟩ := h.congr ho.broker
    exact hr.attend he
  | finish ho _ => exact h.congr ho.broker
  | round hd _ => exact h.round hd
  | lastRound hd _ => exact h.round hd
  | rest _ => exact h.congr rfl
  | rebuild => exact h.congr rfl
  | stop _ => exact h.congr rfl

/-- The broker keeps the order in every run. -/
lemma Reachable.kept {l : BrokerLoop} (h : Reachable l) : Kept l := by
  induction h with
  | start hr hp => exact ⟨hr ▸ .empty, by simp [Broker.Addressed, hp], by simp [hp]⟩
  | step _ st ih => exact st.kept ih
  | outside _ hb ih => exact ih.congr hb

/-- In every run, with clients, workers and inboxes doing what they like, the requests that the
broker has taken are those that it has handed over followed by those that wait. Each of them can be
put back; a round that hands nothing over leaves them all where they were, and a hand-over puts the
request into the inbox. -/
theorem Reachable.requests_in_order {l : BrokerLoop} (h : Reachable l) :
    l.ledger.taken.map Envelope.frames =
        l.ledger.handed.map Broker.HandOff.request ++
          l.exchange.broker.pending.map Envelope.frames ∧
      (∀ e ∈ l.exchange.broker.pending, Envelope.parse e.frames = .ok e) ∧
      ∀ d, l.exchange.broker.Round l.exchange.accepts d →
        (d.handOffs = [] → d.broker.pending = l.exchange.broker.pending) ∧
        ∀ o ∈ d.handOffs, ∃ c, l.exchange.inbox? o.worker = some c ∧
          (l.exchange.carryOut d).inbox? o.worker =
            some { c with queued := c.queued ++ [o.request] } := by
  have hk := h.kept
  refine ⟨hk.order, fun e he => Envelope.parse_frames (hk.addressed e he), fun d hd => ⟨?_, ?_⟩⟩
  · exact hd.pending_of_no_handOff hk.addressed
  · exact fun o ho => Exchange.inbox?_of_handOff hd ho

/-- Two workers, of which the first is gone, and two messages of clients, of which the second is no
request. -/
def crossroads : Exchange where
  broker := { workers := [⟨[0]⟩, ⟨[1]⟩], maxPending := 2 }
  frontend := { queued := [[[7], [], [9]], [[9]]] }
  backend := { queued := [Broker.readyMessage ⟨[0]⟩, Broker.readyMessage ⟨[1]⟩] }
  inboxes := [(⟨[0]⟩, { capacity := some 1, receiverOpen := false }),
    (⟨[1]⟩, { capacity := some 1 })]

/-- The request that the first worker does not accept is handed to the second. -/
theorem requests_in_order_crossroads : ∃ l : BrokerLoop, Reachable l ∧
    l.ledger.taken = [⟨[7], [9]⟩] ∧ l.ledger.handed = [⟨⟨[1]⟩, [[7], [], [9]]⟩] ∧
      l.ledger.taken.map Envelope.frames =
        l.ledger.handed.map Broker.HandOff.request ++
          l.exchange.broker.pending.map Envelope.frames := by
  have started : Reachable ⟨crossroads, .polling, {}⟩ := .start rfl rfl
  have heard := started.step (.attend (.worker rfl) rfl) |>.step (.rest (.inl rfl))
  have ready := heard.step (.attend (.worker rfl) rfl) |>.step (.rest (.inl rfl))
  have taken := ready.step (.attend (.client (by decide) rfl) rfl)
  have givenUp := taken.step (.round (.giveUp rfl rfl (by decide) (by decide) rfl) (by decide))
  have handed := givenUp.step (.round (.hand rfl rfl (by decide) (by decide)) rfl)
  have rested := handed.step (.rest (.inl rfl))
  have discarded := rested.step (.attend (.client (by decide) rfl) rfl)
  exact ⟨_, discarded, rfl, rfl, discarded.requests_in_order.1⟩

end BrokerLoop

end Wayfinding
