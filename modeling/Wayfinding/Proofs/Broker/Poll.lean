import Mathlib.Logic.Relation
import Wayfinding.Proofs.Broker.Order

/-!
# Polling as a run of steps

`Exchange.poll` goes through the loop in one piece, with nobody else acting meanwhile. It is one of
the runs of `BrokerLoop.Step`, so that what holds in every run holds of it.

Main statements: `BrokerLoop.Run.dispatch`, `BrokerLoop.Run.poll`.
-/

namespace Wayfinding

namespace Broker

variable {accepts : WorkerId → Bool} {b : Broker} {d : Dispatch}

/-- A worker that was handed a request does not wait any more. -/
lemma Round.handOff_notMem (h : Round accepts b d) (hs : b.ready.Sound) {o : HandOff}
    (ho : o ∈ d.handOffs) : o.worker ∉ d.broker.ready.queue := by
  cases h with
  | skip => simp at ho
  | hand hp hn hw ha =>
    obtain rfl : o = _ := by simpa using ho
    exact (Round.hand hp hn hw ha).next_notMem hs hn
  | giveUp => simp at ho

/-- A dispatch hands requests to workers that it serves in the end, and adds none. -/
lemma dispatch_workers (b : Broker) (accepts : WorkerId → Bool) :
    (b.dispatch accepts).broker.workers ⊆ b.workers ∧
      ∀ o ∈ (b.dispatch accepts).handOffs, o.worker ∈ b.workers := by
  generalize hn : b.ready.queue.length = n
  induction n using Nat.strongRecOn generalizing b with
  | ind n ih =>
    obtain hq | ⟨d, hd⟩ := quiet_or_round accepts b
    · rw [dispatch_quiet hq]
      simp
    · obtain ⟨hlt, -⟩ := hd.queue_sublist
      obtain ⟨hw, ho⟩ := ih _ (hn ▸ hlt) d.broker rfl
      have hsub := hd.workers_subset
      have hd' : ∀ o ∈ d.handOffs, o.worker ∈ b.workers :=
        fun o h => hsub (hd.handOff_mem h).1
      rw [dispatch_round hd]
      split
      · exact ⟨hsub, hd'⟩
      · refine ⟨fun v hv => hsub (hw hv), fun o h => ?_⟩
        obtain h | h := List.mem_append.1 h
        · exact hd' o h
        · exact hsub (ho o h)

end Broker

namespace Exchange

/-- Polling waits when there is nothing to attend to. -/
lemma poll_of_none {e : Exchange} (h : e.next? = none) : e.poll = (e, .waiting) := by
  rw [poll]
  split
  · rfl
  · next hn => simp [h] at hn

/-- Polling ends with what ends the loop. -/
lemma poll_of_loopEnd {e r : Exchange} {event : Event} {how : LoopEnd}
    (h : e.next? = some (event, r)) (he : event.loopEnd? = some how) : e.poll = (r, how) := by
  rw [poll]
  split
  · next hn => simp [h] at hn
  · next hn =>
    obtain ⟨rfl, rfl⟩ : _ = event ∧ _ = r := by simpa [h] using hn.symm
    split
    · next hm => simp_all
    · next hm => simp [he] at hm

/-- What does not end the loop is attended to, and then requests are handed out; polling goes on
unless that fails. -/
lemma poll_of_attend {e r : Exchange} {event : Event} (h : e.next? = some (event, r))
    (he : event.loopEnd? = none) :
    e.poll = match (r.attend event).dispatch with
      | (next, none) => next.poll
      | (next, some error) => (next, .failed error) := by
  rw [poll]
  split
  · next hn => simp [h] at hn
  · next hn =>
    obtain ⟨rfl, rfl⟩ : _ = event ∧ _ = r := by simpa [h] using hn.symm
    split
    · next hm => simp [he] at hm
    · split <;> simp_all

/-- A round does not change whether the workers that still wait accept a request. -/
lemma accepts_carryOut {e : Exchange} {d : Broker.Dispatch} {w : WorkerId}
    (hd : e.broker.Round e.accepts d) (hs : e.broker.ready.Sound)
    (hq : w ∈ d.broker.ready.queue) (hw : w ∈ d.broker.workers) :
    (e.carryOut d).accepts w = e.accepts w := by
  refine accepts_of_inbox? ?_
  have hne : ∀ o ∈ d.handOffs, w ≠ o.worker := by
    rintro o ho rfl
    exact hd.handOff_notMem hs ho hq
  rw [inbox?_carryOut]
  cases e.inbox? w with
  | none => rfl
  | some c => rw [Option.map_some, Broker.Dispatch.fill_of_mem hw hne]

end Exchange

/-- Handing over in two parts is noted like handing over at once. -/
lemma Ledger.hand_hand (g : Ledger) (os os' : List Broker.HandOff) :
    (g.hand os).hand os' = g.hand (os ++ os') := by
  simp [Ledger.hand]

/-- The stage in which a dispatch leaves the loop. -/
def LoopStage.afterDispatch : Option BrokerError → LoopStage
  | none => .polling
  | some error => .ended (.failed error)

/-- The stage in which polling leaves the loop. -/
def LoopStage.afterPoll : Exchange.LoopEnd → LoopStage
  | .waiting => .polling
  | how => .ended how

/-- The inboxes of workers that are not served are closed. -/
def Exchange.Tidy (e : Exchange) : Prop :=
  ∀ i ∈ e.inboxes, i.1 ∉ e.broker.workers → i.2.senderOpen = false

namespace Exchange

variable {e r : Exchange} {event : Event} {d : Broker.Dispatch}

/-- A dispatch that decides nothing is carried out by doing nothing. -/
lemma Tidy.carryOut_self (h : e.Tidy) : e.carryOut { broker := e.broker } = e := by
  have hi : e.inboxes.map (fun i => (i.1, Broker.Dispatch.fill { broker := e.broker } i.1 i.2)) =
      e.inboxes := by
    rw [List.map_congr_left (g := id), List.map_id]
    intro i hi
    by_cases hw : i.1 ∈ e.broker.workers
    · rw [Broker.Dispatch.fill_of_mem hw (by simp)]
      rfl
    · rw [Broker.Dispatch.fill_of_notMem hw (by simp), Channel.closeSender, ← h i hi hw]
      rfl
  rw [carryOut_eq, hi]

/-- What a dispatch leaves is tidy. -/
lemma tidy_carryOut (e : Exchange) (d : Broker.Dispatch) : (e.carryOut d).Tidy := by
  intro i hi hw
  rw [broker_carryOut] at hw
  rw [carryOut_eq] at hi
  obtain ⟨j, -, rfl⟩ := List.mem_map.1 hi
  simp only [Broker.Dispatch.fill, hw, if_false, Channel.closeSender]

/-- What is attended to leaves the exchange tidy. -/
lemma Offers.tidy (h : e.Offers event r) (ht : e.Tidy) : r.Tidy := by
  cases h <;> exact ht

/-- Attending to something keeps the inboxes tidy. -/
lemma Tidy.attend (h : e.Tidy) (event : Event) : (e.attend event).Tidy := by
  cases event with
  | stop => exact h
  | fail => exact h
  | client m =>
    simp only [Exchange.attend, receiveClient, Broker.receiveClient, Tidy]
    cases Envelope.parse m <;> exact h
  | worker m =>
    obtain ⟨hw, -, -⟩ := e.broker.receiveWorker_fields m
    have hi : (e.receiveWorker m).inboxes = e.inboxes := by
      simp only [receiveWorker, deliver]
      split <;> rfl
    simpa only [Tidy, Exchange.attend, broker_receiveWorker, hw, hi] using h

end Exchange

namespace BrokerLoop

/-- Some steps of the broker, with nobody else acting between them. -/
abbrev Run : BrokerLoop → BrokerLoop → Prop := Relation.ReflTransGen Step

/-- A dispatch goes through its rounds one by one. -/
lemma Run.dispatch {e : Exchange} {g : Ledger} {n : Nat} (ht : e.Tidy)
    (hs : e.broker.ready.Sound) (hn : e.broker.ready.queue.length = n) :
    Run ⟨e, .dispatching, g⟩
      ⟨e.dispatch.1, .afterDispatch e.dispatch.2,
        g.hand (e.broker.dispatch e.accepts).handOffs⟩ := by
  induction n using Nat.strongRecOn generalizing e g with
  | ind n ih =>
    obtain hq | ⟨d, hd⟩ := Broker.quiet_or_round e.accepts e.broker
    · have hsame : e.dispatch = (e, none) := by
        simp [Exchange.dispatch_eq, Broker.dispatch_quiet hq, ht.carryOut_self]
      rw [hsame, Broker.dispatch_quiet hq]
      simpa [Ledger.hand, LoopStage.afterDispatch] using .single (.rest hq)
    · obtain ⟨hlt, -⟩ := hd.queue_sublist
      have hdis := Broker.dispatch_round hd
      cases hg : d.workersGone with
      | true =>
        rw [hg, if_pos rfl] at hdis
        rw [Exchange.dispatch_eq, hdis, hg]
        exact .single (.lastRound hd hg)
      | false =>
        rw [hg, if_neg Bool.false_ne_true] at hdis
        -- the inboxes after the round decide the rest as those before it do
        have hrest : d.broker.dispatch (e.carryOut d).accepts = d.broker.dispatch e.accepts :=
          Broker.dispatch_congr rfl fun w hq hw => Exchange.accepts_carryOut hd hs hq hw
        obtain ⟨hw, ho⟩ := d.broker.dispatch_workers e.accepts
        have hrun := ih _ (hn ▸ hlt) (e := e.carryOut d) (g := g.hand d.handOffs)
          (Exchange.tidy_carryOut e d) (by simpa using hd.sound hs) (by simp)
        rw [Exchange.dispatch_eq, Exchange.broker_carryOut, hrest, Exchange.carryOut_carryOut ho hw,
          Ledger.hand_hand] at hrun
        rw [Exchange.dispatch_eq, hdis]
        exact .head (.round hd hg) hrun

/-- Steps keep the order of requests. -/
lemma Run.kept {l l' : BrokerLoop} (h : Run l l') (hk : Kept l) : Kept l' := by
  induction h with
  | refl => exact hk
  | tail _ st ih => exact st.kept ih

/-- Polling goes through steps of the loop. -/
theorem Run.poll {e : Exchange} {g : Ledger} (ht : e.Tidy) (hk : Kept ⟨e, .polling, g⟩) :
    ∃ g', Run ⟨e, .polling, g⟩ ⟨e.poll.1, .afterPoll e.poll.2, g'⟩ := by
  -- along the recursion of `poll`, of which each turn is one message and one dispatch
  induction e using Exchange.poll.induct generalizing g with
  | case1 e hn =>
    rw [Exchange.poll_of_none hn]
    exact ⟨g, .refl⟩
  | case2 e event r hn how he =>
    rw [Exchange.poll_of_loopEnd hn he]
    have hst : LoopStage.afterPoll how = .ended how := by cases event <;> cases he <;> rfl
    rw [hst]
    exact ⟨g, .single (.finish (Exchange.offers_of_next? hn) he)⟩
  | case3 e event r hn he next hd ih =>
    have ho := Exchange.offers_of_next? hn
    have hk' : Kept ⟨r, .polling, g⟩ := hk.congr ho.broker
    have hr : Kept ⟨r.attend event, .dispatching, g.attend r event⟩ := hk'.attend he
    have hrun := Run.dispatch (g := g.attend r event) ((ho.tidy ht).attend event) hr.sound rfl
    rw [hd] at hrun
    have hnext : (r.attend event).dispatch.1.Tidy := Exchange.tidy_carryOut _ _
    rw [hd] at hnext
    obtain ⟨g', hrest⟩ := ih hnext (hrun.kept hr)
    rw [Exchange.poll_of_attend hn he, hd]
    exact ⟨g', .head (.attend ho he) (hrun.trans hrest)⟩
  | case4 e event r hn he next error hd =>
    have ho := Exchange.offers_of_next? hn
    have hk' : Kept ⟨r, .polling, g⟩ := hk.congr ho.broker
    have hr : Kept ⟨r.attend event, .dispatching, g.attend r event⟩ := hk'.attend he
    have hrun := Run.dispatch (g := g.attend r event) ((ho.tidy ht).attend event) hr.sound rfl
    rw [hd] at hrun
    rw [Exchange.poll_of_attend hn he, hd]
    exact ⟨_, .head (.attend ho he) hrun⟩

end BrokerLoop

end Wayfinding
