import Mathlib.Data.List.Induction
import Wayfinding.Proofs.Broker.Conservation
import Wayfinding.Proofs.Broker.Poll

/-!
# The broker's loop, turn by turn

In each turn the loop attends to something and then hands out requests. How things stand after it is
decided by what it finds: what it attends to, who can be replied to at that time, and which workers
accept a request when they are asked. A course is a run together with what the loop finds in each
turn; every run is one, because no worker is asked twice in a turn.

Main definitions:
* `Turn`: what the loop finds in one turn.
* `Standing`, `BrokerLoop.Stands`: how things stand between two turns.
* `Standing.turn`, `Standing.play`: how things stand after turns.
* `BrokerLoop.Course`: the runs in which the loop finds what is given for each turn.

Main lemmas: `Course.play_eq` (the turns decide how things stand), `Course.extend` (others can let
the loop find whatever it admits), `reachable_iff_course`.
-/

namespace Wayfinding

/-! ### What the broker attends to -/

namespace Broker

variable {b : Broker}

/-- Whether the broker would attend to something if it was there: the clients have to wait as long
as there is no room for their requests. -/
def Permits (b : Broker) : Exchange.Event → Prop
  | .client _ | .fail .frontendClosed => b.pending.length < b.maxPending
  | _ => True

end Broker

namespace Exchange

variable {e e' r : Exchange} {event : Event}

/-- The broker attends to nothing else. -/
lemma Offers.permits (h : e.Offers event r) : e.broker.Permits event := by
  cases h with
  | stop => trivial
  | interruption => trivial
  | worker => trivial
  | workersGone => trivial
  | client hroom => exact hroom
  | frontendClosed hroom => exact hroom

/-- The broker attends to it if others see to it that it is there. -/
lemma exists_offers (e : Exchange) (registry : Registry) (h : e.broker.Permits event) :
    ∃ e' r : Exchange, e'.broker = e.broker ∧ e'.Offers event r ∧ r.registry = registry := by
  cases event with
  | stop => exact ⟨{ e with stopping := true, registry := registry }, _, rfl, .stop rfl, rfl⟩
  | worker m =>
    exact ⟨{ e with backend := { queued := [m] }, registry := registry }, _, rfl, .worker rfl, rfl⟩
  | client m =>
    exact ⟨{ e with frontend := { queued := [m] }, registry := registry }, _, rfl, .client h rfl,
      rfl⟩
  | fail error =>
    cases error with
    | interrupted =>
      exact ⟨{ e with interrupted := true, registry := registry }, _, rfl, .interruption rfl, rfl⟩
    | workersGone =>
      exact ⟨{ e with backend := { senderOpen := false }, registry := registry }, _, rfl,
        .workersGone rfl, rfl⟩
    | frontendClosed =>
      exact ⟨{ e with frontend := { senderOpen := false }, registry := registry }, _, rfl,
        .frontendClosed h rfl, rfl⟩

/-- The worker that is asked next accepts a request or not, as others see to it. -/
lemma exists_accepts (e : Exchange) (accepts : WorkerId → Bool) :
    ∃ e' : Exchange, e'.broker = e.broker ∧
      ∀ w ready, e'.broker.ready.next? = some (w, ready) → e'.accepts w = accepts w := by
  cases hn : e.broker.ready.next? with
  | none => exact ⟨e, rfl, fun w ready h => by simp [hn] at h⟩
  | some head =>
    refine ⟨{ e with inboxes := [(head.1, { receiverOpen := accepts head.1 })] }, rfl, ?_⟩
    intro w ready h
    obtain rfl : head = (w, ready) := Option.some.inj (hn.symm.trans h)
    cases accepts w <;> simp [Exchange.accepts, inbox?, Channel.offer, Channel.hasRoom]

/-- What the broker makes of an event does not depend on the channels. -/
lemma broker_attend_congr (hb : e'.broker = e.broker) (event : Event) :
    (e'.attend event).broker = (e.attend event).broker := by
  cases event with
  | stop => exact hb
  | fail => exact hb
  | worker m => simp only [attend, broker_receiveWorker, hb]
  | client m => simp only [attend, receiveClient, hb]

end Exchange

/-- What the ledger records of an event does not depend on the channels either. -/
lemma Ledger.attend_congr {e e' : Exchange} (hb : e'.broker = e.broker)
    (hr : e'.registry = e.registry) (g : Ledger) (event : Exchange.Event) :
    g.attend e' event = g.attend e event := by
  cases event <;> simp only [Ledger.attend, hb, hr]

/-! ### Turns -/

/-- What the loop finds in one turn. -/
structure Turn where
  /-- What it attends to. -/
  event : Exchange.Event
  /-- The clients at that time. -/
  registry : Registry
  /-- Whether a worker accepts a request when it is asked. -/
  accepts : WorkerId → Bool

/-- How things stand between two turns. -/
structure Standing where
  broker : Broker
  ledger : Ledger := {}
  /-- How the loop has ended, if it has ended for good. -/
  ended : Option Exchange.LoopEnd := none

namespace Standing

variable {b : Broker} {d : Broker.Dispatch} {g : Ledger} {accepts : WorkerId → Bool}
  {s : Standing} {t : Turn} {ts : List Turn}

/-- How things stand after a dispatch. -/
def dispatched (b : Broker) (g : Ledger) (accepts : WorkerId → Bool) : Standing where
  broker := (b.dispatch accepts).broker
  ledger := g.hand (b.dispatch accepts).handOffs
  ended := if (b.dispatch accepts).workersGone then some (.failed .workersGone) else none

/-- How things stand after one more turn. A loop that was interrupted is begun anew; one that has
ended for good attends to nothing. -/
def turn (s : Standing) (t : Turn) : Standing :=
  match s.ended, t.event.loopEnd? with
  | some _, _ => s
  | none, some (.failed .interrupted) => s
  | none, some how => { s with ended := some how }
  | none, none =>
    let e : Exchange := { broker := s.broker, registry := t.registry }
    dispatched (e.attend t.event).broker (s.ledger.attend e t.event) t.accepts

/-- Whether the loop goes on and would attend to what it finds. -/
def Admits (s : Standing) (t : Turn) : Prop := s.ended = none ∧ s.broker.Permits t.event

/-- How things stand after some turns of a fresh broker. -/
def play (b : Broker) (ts : List Turn) : Standing := ts.foldl turn { broker := b }

/-- One more turn is played after the others. -/
lemma play_concat (b : Broker) (ts : List Turn) (t : Turn) :
    play b (ts ++ [t]) = (play b ts).turn t := by
  simp [play]

/-- A turn in which the loop attends to a message goes on with a dispatch. -/
lemma turn_attend {r : Exchange} (h : t.event.loopEnd? = none) (hr : r.registry = t.registry) :
    turn ⟨r.broker, g, none⟩ t =
      dispatched (r.attend t.event).broker (g.attend r t.event) t.accepts := by
  have hb : Exchange.broker { broker := r.broker, registry := t.registry } = r.broker := rfl
  simp only [turn, h, Exchange.broker_attend_congr hb, Ledger.attend_congr hb hr.symm]

/-- An interruption changes nothing. -/
lemma turn_interruption (h : t.event.loopEnd? = some (.failed .interrupted)) : s.turn t = s := by
  cases hs : s.ended <;> simp only [turn, hs, h]

/-- Any other end of the loop leaves the broker as it is. -/
lemma turn_finish {how : Exchange.LoopEnd} (h : t.event.loopEnd? = some how)
    (hne : how ≠ .failed .interrupted) : turn ⟨b, g, none⟩ t = ⟨b, g, some how⟩ := by
  simp only [turn, h]

/-- A broker that has nothing to hand out does not. -/
lemma dispatched_quiet (h : b.Quiet) : dispatched b g accepts = ⟨b, g, none⟩ := by
  simp [dispatched, Broker.dispatch_quiet h, Ledger.hand]

/-- How a dispatch leaves things does not change in its rounds. -/
lemma dispatched_round (h : b.Round accepts d) (hg : d.workersGone = false) :
    dispatched b g accepts = dispatched d.broker (g.hand d.handOffs) accepts := by
  simp [dispatched, Broker.dispatch_round h, hg, Ledger.hand_hand]

/-- A broker whose workers are gone ends after its round. -/
lemma dispatched_lastRound (h : b.Round accepts d) (hg : d.workersGone = true) :
    dispatched b g accepts = ⟨d.broker, g.hand d.handOffs, some (.failed .workersGone)⟩ := by
  simp [dispatched, Broker.dispatch_round h, hg]

/-- After a dispatch there is nothing to hand out, unless the last worker was lost. -/
lemma quiet_of_dispatched (h : (dispatched b g accepts).ended = none) :
    (dispatched b g accepts).broker.Quiet := by
  obtain ⟨-, -, hgone | hquiet⟩ := b.rounds_dispatch accepts
  · simp [dispatched, hgone] at h
  · exact hquiet

/-- As long as the loop goes on, the broker has handed out what it can. -/
lemma quiet_turn (hs : s.ended = none → s.broker.Quiet) (h : (s.turn t).ended = none) :
    (s.turn t).broker.Quiet := by
  unfold turn at h ⊢
  split at h
  · exact hs h
  · exact hs h
  · cases h
  · exact quiet_of_dispatched h

/-- Whenever a loop looks for something to attend to, there is nothing to hand out. -/
lemma quiet_play (hb : b.pending = []) (h : (play b ts).ended = none) :
    (play b ts).broker.Quiet := by
  induction ts using List.reverseRecOn with
  | nil => exact .inl hb
  | append_singleton ts t ih =>
    rw [play_concat] at h ⊢
    exact quiet_turn ih h

end Standing

namespace BrokerLoop

open Standing

/-- How a loop stands between two turns. One that pauses after an interruption goes on. -/
inductive Stands : BrokerLoop → Standing → Prop where
  | polling {e : Exchange} {g : Ledger} :
    Stands ⟨e, .polling, g⟩ ⟨e.broker, g, none⟩
  | pausing {e : Exchange} {g : Ledger} :
    Stands ⟨e, .ended (.failed .interrupted), g⟩ ⟨e.broker, g, none⟩
  | ended {e : Exchange} {g : Ledger} {how : Exchange.LoopEnd} :
    how ≠ .failed .interrupted →
    Stands ⟨e, .ended how, g⟩ ⟨e.broker, g, some how⟩

/-- The broker of a loop is the one that stands there. -/
lemma Stands.broker_eq {l : BrokerLoop} {s : Standing} (h : l.Stands s) :
    s.broker = l.exchange.broker := by
  cases h <;> rfl

/-- The ledger of a loop is the one that stands there. -/
lemma Stands.ledger_eq {l : BrokerLoop} {s : Standing} (h : l.Stands s) :
    s.ledger = l.ledger := by
  cases h <;> rfl

/-- The runs of a fresh broker in which the loop finds what is given for each of its turns. Others
do what they like to everything but the broker, as long as this is so. -/
inductive Course (b : Broker) : List Turn → BrokerLoop → Prop where
  | start {e : Exchange} :
    e.broker = b →
    b.ready = {} →
    b.pending = [] →
    Course b [] ⟨e, .polling, {}⟩
  | attend {e r : Exchange} {g : Ledger} {ts : List Turn} {t : Turn} :
    Course b ts ⟨e, .polling, g⟩ →
    e.Offers t.event r →
    t.event.loopEnd? = none →
    r.registry = t.registry →
    Course b (ts ++ [t]) ⟨r.attend t.event, .dispatching, g.attend r t.event⟩
  | finish {e r : Exchange} {g : Ledger} {ts : List Turn} {t : Turn} {how : Exchange.LoopEnd} :
    Course b ts ⟨e, .polling, g⟩ →
    e.Offers t.event r →
    t.event.loopEnd? = some how →
    Course b (ts ++ [t]) ⟨r, .ended how, g⟩
  | dispatch {e : Exchange} {g : Ledger} {ts : List Turn} {t : Turn} {l : BrokerLoop} :
    Course b (ts ++ [t]) ⟨e, .dispatching, g⟩ →
    (∀ d, e.broker.Round e.accepts d → e.broker.Round t.accepts d) →
    Step ⟨e, .dispatching, g⟩ l →
    Course b (ts ++ [t]) l
  | rebuild {e : Exchange} {g : Ledger} {ts : List Turn} :
    Course b ts ⟨e, .ended (.failed .interrupted), g⟩ →
    Course b ts ⟨e, .polling, g⟩
  | stop {e : Exchange} {g : Ledger} {ts : List Turn} {t : Turn} :
    Course b ts ⟨e, .ended (.failed .interrupted), g⟩ →
    e.stopping = true →
    t.event = .stop →
    Course b (ts ++ [t]) ⟨{ e with stopping := false }, .ended .stopped, g⟩
  | outside {e e' : Exchange} {s : LoopStage} {g : Ledger} {ts : List Turn} :
    Course b ts ⟨e, s, g⟩ →
    e'.broker = e.broker →
    Course b ts ⟨e', s, g⟩

variable {b : Broker} {e : Exchange} {g : Ledger} {l : BrokerLoop} {s : Standing} {t : Turn}
  {ts : List Turn}

/-- A course begins without requests. -/
lemma Course.pending_eq_nil (h : Course b ts l) : b.pending = [] := by
  induction h <;> assumption

/-! ### The turns decide how things stand -/

/-- What the turns of a course say about how things stand: during a dispatch, how they will. -/
structure Played (b : Broker) (ts : List Turn) (l : BrokerLoop) : Prop where
  stands : ∀ s, l.Stands s → play b ts = s
  dispatching : l.stage = .dispatching → ∀ t, ts.getLast? = some t →
    play b ts = dispatched l.exchange.broker l.ledger t.accepts

/-- A course is played by the broker, whatever the channels hold. -/
lemma Played.congr {e e' : Exchange} {stage : LoopStage} (h : Played b ts ⟨e, stage, g⟩)
    (hb : e'.broker = e.broker) : Played b ts ⟨e', stage, g⟩ where
  stands s hs := by
    cases hs with
    | polling => exact hb ▸ h.stands _ .polling
    | pausing => exact hb ▸ h.stands _ .pausing
    | ended hhow => exact hb ▸ h.stands _ (.ended hhow)
  dispatching := hb ▸ h.dispatching

/-- The turns decide what a step of the dispatch leads to. -/
lemma Played.dispatch (h : Played b (ts ++ [t]) ⟨e, .dispatching, g⟩)
    (hround : ∀ d, e.broker.Round e.accepts d → e.broker.Round t.accepts d)
    (st : Step ⟨e, .dispatching, g⟩ l) : Played b (ts ++ [t]) l := by
  have hplay := h.dispatching rfl t List.getLast?_concat
  cases st with
  | round hd hg =>
    refine ⟨nofun, fun _ t' ht' => ?_⟩
    obtain rfl : t = t' := by simpa using ht'
    rw [hplay, Exchange.broker_carryOut]
    exact dispatched_round (hround _ hd) hg
  | lastRound hd hg =>
    refine ⟨fun s hs => ?_, nofun⟩
    cases hs
    rw [hplay, Exchange.broker_carryOut]
    exact dispatched_lastRound (hround _ hd) hg
  | rest hq =>
    refine ⟨fun s hs => ?_, nofun⟩
    cases hs
    rw [hplay]
    exact dispatched_quiet hq

/-- In every course the turns decide how things stand. -/
lemma Course.played (h : Course b ts l) : Played b ts l := by
  -- others change nothing that the standing shows, and a pause is no turn
  induction h with
  | start he _ _ =>
    refine ⟨fun s hs => ?_, nofun⟩
    cases hs
    rw [he]
    rfl
  | @attend e r g ts t _ ho hn hr ih =>
    refine ⟨nofun, fun _ t' ht' => ?_⟩
    obtain rfl : t = t' := by simpa using ht'
    rw [play_concat, ih.stands _ .polling, ← ho.broker]
    exact turn_attend hn hr
  | finish _ ho hhow ih =>
    refine ⟨fun s hs => ?_, nofun⟩
    rw [play_concat, ih.stands _ .polling, ← ho.broker]
    cases hs with
    | pausing => exact turn_interruption hhow
    | ended hne => exact turn_finish hhow hne
  | dispatch _ hround st ih => exact ih.dispatch hround st
  | rebuild _ ih =>
    refine ⟨fun s hs => ?_, nofun⟩
    cases hs
    exact ih.stands _ .pausing
  | stop _ _ ht ih =>
    refine ⟨fun s hs => ?_, nofun⟩
    cases hs
    rw [play_concat, ih.stands _ .pausing]
    simp [turn, ht, Exchange.Event.loopEnd?]
  | outside _ hb ih => exact ih.congr hb

/-- Between two turns things stand as the turns of the course have it. -/
lemma Course.play_eq (h : Course b ts l) (hs : l.Stands s) : play b ts = s := h.played.stands s hs

/-! ### What others can let the loop find -/

/-- The course before its last turn, which the broker admits. -/
lemma Course.init (h : Course b (ts ++ [t]) l) :
    ∃ l', Course b ts l' ∧ l'.Stands (play b ts) ∧ (play b ts).Admits t := by
  generalize hts : ts ++ [t] = ts' at h
  induction h with
  | start => simp at hts
  | attend hc ho =>
    obtain ⟨rfl, ⟨⟩⟩ := List.append_inj' hts rfl
    rw [hc.play_eq .polling]
    exact ⟨_, hc, .polling, rfl, ho.permits⟩
  | finish hc ho =>
    obtain ⟨rfl, ⟨⟩⟩ := List.append_inj' hts rfl
    rw [hc.play_eq .polling]
    exact ⟨_, hc, .polling, rfl, ho.permits⟩
  | stop hc _ ht =>
    obtain ⟨rfl, ⟨⟩⟩ := List.append_inj' hts rfl
    rw [hc.play_eq .pausing]
    refine ⟨_, hc, .pausing, rfl, ?_⟩
    rw [ht]
    trivial
  | dispatch _ _ _ ih => exact ih hts
  | rebuild _ ih => exact ih hts
  | outside _ _ ih => exact ih hts

/-- Where a loop has ended, it stands. -/
lemma exists_stands_ended (e : Exchange) (how : Exchange.LoopEnd) (g : Ledger) :
    ∃ s, Stands ⟨e, .ended how, g⟩ s := by
  by_cases h : how = .failed .interrupted
  · subst h
    exact ⟨_, .pausing⟩
  · exact ⟨_, .ended h⟩

/-- A dispatch can be brought to its end, the workers that are asked accepting or not. -/
lemma Course.finish_dispatch {n : Nat} (h : Course b (ts ++ [t]) ⟨e, .dispatching, g⟩)
    (hn : e.broker.ready.queue.length = n) :
    ∃ l s, Course b (ts ++ [t]) l ∧ l.Stands s := by
  -- every round shortens the ready queue
  induction n using Nat.strongRecOn generalizing e g with
  | ind n ih =>
    -- before each round others see to it that the worker that is asked answers as it should
    obtain ⟨e', hb, haccepts⟩ := e.exists_accepts t.accepts
    have hc : Course b (ts ++ [t]) ⟨e', .dispatching, g⟩ := h.outside hb
    have hround : ∀ d, e'.broker.Round e'.accepts d → e'.broker.Round t.accepts d :=
      fun d hd => hd.congr fun w ready hw _ => haccepts w ready hw
    obtain hq | ⟨d, hd⟩ := Broker.quiet_or_round e'.accepts e'.broker
    · exact ⟨_, _, hc.dispatch hround (.rest hq), .polling⟩
    · cases hg : d.workersGone with
      | true =>
        obtain ⟨s, hs⟩ := exists_stands_ended (e'.carryOut d) (.failed .workersGone)
          (g.hand d.handOffs)
        exact ⟨_, s, hc.dispatch hround (.lastRound hd hg), hs⟩
      | false =>
        obtain ⟨hlt, -⟩ := hd.queue_sublist
        rw [hb, hn] at hlt
        exact ih _ hlt (hc.dispatch hround (.round hd hg)) (by simp)

/-- Whatever the loop admits, others can let it find. -/
lemma Course.extend (h : Course b ts l) (hl : l.Stands s) (ht : s.Admits t) :
    ∃ l', Course b (ts ++ [t]) l' ∧ l'.Stands (play b (ts ++ [t])) := by
  obtain ⟨e, g, hc, hb⟩ : ∃ e g, Course b ts ⟨e, .polling, g⟩ ∧ e.broker = s.broker := by
    cases hl with
    | polling => exact ⟨_, _, h, rfl⟩
    | pausing => exact ⟨_, _, h.rebuild, rfl⟩
    | ended => cases ht.1
  obtain ⟨e', r, he, ho, hr⟩ := e.exists_offers t.registry (hb ▸ ht.2)
  have hc' : Course b ts ⟨e', .polling, g⟩ := hc.outside he
  obtain ⟨l', s', hl', hs'⟩ : ∃ l' s', Course b (ts ++ [t]) l' ∧ l'.Stands s' := by
    cases hend : t.event.loopEnd? with
    | some how =>
      obtain ⟨s', hs'⟩ := exists_stands_ended r how g
      exact ⟨_, s', hc'.finish ho hend, hs'⟩
    | none => exact (hc'.attend ho hend hr).finish_dispatch rfl
  exact ⟨l', hl', hl'.play_eq hs' ▸ hs'⟩

/-! ### Every run is a course -/

/-- Each course is a run. -/
lemma Course.reachable (h : Course b ts l) : Reachable l := by
  induction h with
  | start he hr hp => exact .start (he ▸ hr) (he ▸ hp)
  | attend _ ho hn _ ih => exact ih.step (.attend ho hn)
  | finish _ ho hhow ih => exact ih.step (.finish ho hhow)
  | dispatch _ _ st ih => exact ih.step st
  | rebuild _ ih => exact ih.step .rebuild
  | stop _ hs _ ih => exact ih.step (.stop hs)
  | outside _ hb ih => exact ih.outside hb

/-- A run as a course. During a dispatch the workers that still wait have not been asked, so that
the course is one whether they accept or not. -/
structure Found (l : BrokerLoop) : Prop where
  between : l.stage ≠ .dispatching → ∃ b ts, Course b ts l
  dispatching : l.stage = .dispatching → ∃ b ts, ∃ t : Turn, ∀ accepts : WorkerId → Bool,
    (∀ w, w ∉ l.exchange.broker.ready.queue → accepts w = t.accepts w) →
      Course b (ts ++ [{ t with accepts := accepts }]) l

/-- A step of a dispatch adds the answer of the worker that is asked in it. -/
lemma Found.dispatch (h : Found ⟨e, .dispatching, g⟩) (st : Step ⟨e, .dispatching, g⟩ l)
    (hsub : l.exchange.broker.ready.queue ⊆ e.broker.ready.queue)
    (hasked : ∀ d, e.broker.Round e.accepts d → ∀ w ready,
      e.broker.ready.next? = some (w, ready) → w ∉ l.exchange.broker.ready.queue) :
    Found l := by
  obtain ⟨b, ts, t, hc⟩ := h.dispatching rfl
  have hfound : ∀ accepts : WorkerId → Bool,
      (∀ w, w ∉ l.exchange.broker.ready.queue →
        accepts w = if w ∈ e.broker.ready.queue then e.accepts w else t.accepts w) →
      Course b (ts ++ [{ t with accepts := accepts }]) l := by
    intro accepts ha
    -- nobody who still waits has been asked, so that the answers so far are kept
    have hbefore := hc accepts fun w hw => by rw [ha w fun hl => hw (hsub hl), if_neg hw]
    refine hbefore.dispatch (fun d hd => hd.congr fun w ready hn _ => ?_) st
    obtain ⟨hq, -, -⟩ := ReadyQueue.next?_eq_some hn
    exact ((ha w (hasked d hd w ready hn)).trans (if_pos (hq ▸ List.mem_cons_self))).symm
  exact ⟨fun _ => ⟨b, _, hfound _ fun _ _ => rfl⟩,
    fun _ => ⟨b, ts, ⟨t.event, t.registry, _⟩, hfound⟩⟩

/-- The worker that a round asks is not asked again. -/
lemma Found.round {d : Broker.Dispatch} {stage : LoopStage} {g' : Ledger}
    (h : Found ⟨e, .dispatching, g⟩) (hs : e.broker.ready.Sound)
    (hd : e.broker.Round e.accepts d)
    (st : Step ⟨e, .dispatching, g⟩ ⟨e.carryOut d, stage, g'⟩) :
    Found ⟨e.carryOut d, stage, g'⟩ := by
  obtain ⟨-, hsub⟩ := hd.queue_sublist
  refine h.dispatch st (by simpa using hsub.subset) fun _ _ w ready hn => ?_
  rw [Exchange.broker_carryOut]
  exact hd.next_notMem hs hn

/-- Every step continues the course. -/
lemma Step.found {l l' : BrokerLoop} (st : Step l l') (hk : Kept l) (h : Found l) : Found l' := by
  cases st with
  | @attend e r g event ho hn =>
    obtain ⟨b, ts, hc⟩ := h.between nofun
    exact ⟨nofun, fun _ => ⟨b, ts, ⟨event, r.registry, e.accepts⟩, fun _ _ => hc.attend ho hn rfl⟩⟩
  | @finish e r g event how ho hhow =>
    obtain ⟨b, ts, hc⟩ := h.between nofun
    exact ⟨fun _ => ⟨b, _, hc.finish (t := ⟨event, r.registry, e.accepts⟩) ho hhow⟩, nofun⟩
  | round hd hg => exact h.round hk.sound hd (.round hd hg)
  | lastRound hd hg => exact h.round hk.sound hd (.lastRound hd hg)
  | rest hq =>
    exact h.dispatch (.rest hq) (List.Subset.refl _) fun d hd => absurd hq hd.not_quiet
  | rebuild =>
    obtain ⟨b, ts, hc⟩ := h.between nofun
    exact ⟨fun _ => ⟨b, ts, hc.rebuild⟩, nofun⟩
  | @stop e g hs =>
    obtain ⟨b, ts, hc⟩ := h.between nofun
    exact ⟨fun _ => ⟨b, _, hc.stop (t := ⟨.stop, e.registry, e.accepts⟩) hs rfl⟩, nofun⟩

/-- Each run follows a course, up to the dispatch that goes on. -/
lemma Reachable.found (h : Reachable l) : Found l := by
  induction h with
  | start hr hp => exact ⟨fun _ => ⟨_, [], .start rfl hr hp⟩, nofun⟩
  | step hl st ih => exact st.found hl.kept ih
  | outside _ hb ih =>
    refine ⟨fun hs => ?_, fun hs => ?_⟩
    · obtain ⟨b, ts, hc⟩ := ih.between hs
      exact ⟨b, ts, hc.outside hb⟩
    · obtain ⟨b, ts, t, hc⟩ := ih.dispatching hs
      exact ⟨b, ts, t, fun accepts ha => (hc accepts (hb ▸ ha)).outside hb⟩

/-- The runs of fresh brokers are the courses. -/
lemma reachable_iff_course : Reachable l ↔ ∃ b ts, Course b ts l := by
  refine ⟨fun h => ?_, fun ⟨_, _, h⟩ => h.reachable⟩
  have hf := h.found
  by_cases hs : l.stage = .dispatching
  · obtain ⟨b, ts, t, hc⟩ := hf.dispatching hs
    exact ⟨b, _, hc t.accepts fun _ _ => rfl⟩
  · exact hf.between hs

end BrokerLoop

end Wayfinding
