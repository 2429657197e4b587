import Wayfinding.Proofs.Broker.Backoff
import Wayfinding.Proofs.Service.Manned
import Wayfinding.Proofs.Transport.Address
import Wayfinding.Service.Basic

/-!
# The service at work

Between two inputs the service does in one piece what the broker and the workers can do. That is one
of the runs of the pool, in which no thread ends, so that what holds in every run holds of it.

Main definitions: `Pacing.Sound`, `Pool.Reflects`.
Main lemmas: `Pool.Reflects.settle`, `Pool.Reflects.perform`, `Pool.Reflects.work`.
-/

namespace Wayfinding

/-! ### What clients and the broker need of each other -/

/-- The frontend takes whatever is sent, and each client has one mailbox. -/
structure Exchange.Wired (e : Exchange) : Prop where
  unlimited : e.frontend.capacity = none
  senderOpen : e.frontend.senderOpen = true
  receiverOpen : e.frontend.receiverOpen = true
  boxes : (e.registry.mailboxes.map (·.1)).Nodup

namespace Exchange.Wired

variable {e r : Exchange} {event : Exchange.Event}

/-- Nothing that the broker attends to closes the frontend. -/
lemma offers (h : e.Wired) (ho : e.Offers event r) :
    r.Wired ∧ event ≠ .fail .frontendClosed := by
  cases ho with
  | client _ hr =>
    obtain ⟨-, hc, hs, ho⟩ := Channel.receive_eq_item hr
    exact ⟨⟨hc.trans h.unlimited, hs.trans h.senderOpen, ho.trans h.receiverOpen, h.boxes⟩, nofun⟩
  | frontendClosed _ hr =>
    obtain ⟨-, hs⟩ := Channel.receive_eq_closed hr
    exact absurd (hs.symm.trans h.senderOpen) Bool.false_ne_true
  | _ => exact ⟨⟨h.unlimited, h.senderOpen, h.receiverOpen, h.boxes⟩, nofun⟩

/-- The broker leaves the wiring when it attends to an event. -/
lemma attend (h : e.Wired) (event : Exchange.Event) : (e.attend event).Wired := by
  cases event with
  | worker m =>
    simp only [Exchange.attend, receiveWorker, deliver]
    split
    · next c m _ =>
      refine ⟨h.unlimited, h.senderOpen, h.receiverOpen, ?_⟩
      exact (Registry.keys_deliver e.registry c m).symm ▸ h.boxes
    · exact ⟨h.unlimited, h.senderOpen, h.receiverOpen, h.boxes⟩
  | _ => exact ⟨h.unlimited, h.senderOpen, h.receiverOpen, h.boxes⟩

/-- The broker leaves the wiring when it hands out requests. -/
lemma carryOut (h : e.Wired) (d : Broker.Dispatch) : (e.carryOut d).Wired := by
  refine ⟨?_, ?_, ?_, ?_⟩
  · rw [frontend_carryOut, h.unlimited]
  · rw [frontend_carryOut, h.senderOpen]
  · rw [frontend_carryOut, h.receiverOpen]
  · rw [registry_carryOut]
    exact h.boxes

/-- The frontend takes the next message. -/
lemma offer (h : e.Wired) : e.frontend.offer = .sent :=
  Channel.offer_of_unlimited h.unlimited h.senderOpen h.receiverOpen

end Exchange.Wired

/-- A broker that is wired does not end for want of clients. -/
structure BrokerLoop.Wired (l : BrokerLoop) : Prop where
  exchange : l.exchange.Wired
  stage : l.stage ≠ .ended (.failed .frontendClosed)

/-- Every step leaves the broker wired. -/
lemma BrokerLoop.Step.wired {l l' : BrokerLoop} (st : l.Step l') (h : l.Wired) : l'.Wired := by
  obtain ⟨he, -⟩ := h
  cases st with
  | attend ho _ => exact ⟨(he.offers ho).1.attend _, nofun⟩
  | @finish e r g event how ho hw =>
    obtain ⟨hr, hne⟩ := he.offers ho
    refine ⟨hr, ?_⟩
    rintro ⟨⟩
    cases event with
    | fail error =>
      cases hw
      exact hne rfl
    | _ => cases hw
  | round => exact ⟨he.carryOut _, nofun⟩
  | lastRound => exact ⟨he.carryOut _, nofun⟩
  | rest => exact ⟨he, nofun⟩
  | rebuild => exact ⟨he, nofun⟩
  | stop => exact ⟨⟨he.unlimited, he.senderOpen, he.receiverOpen, he.boxes⟩, nofun⟩

/-- A run leaves the broker wired. -/
lemma BrokerLoop.Run.wired {l l' : BrokerLoop} (hr : l.Run l') (h : l.Wired) : l'.Wired := by
  induction hr with
  | refl => exact h
  | tail _ st ih => exact st.wired ih

/-! ### Runs of the pool -/

namespace Pool

variable {p p' : Pool} {s : Service}

/-- Some steps of a pool. -/
abbrev Run : Pool → Pool → Prop := Relation.ReflTransGen Step

/-- The pool stays manned. -/
lemma Run.manned (hr : Run p p') (h : p.Inv fun _ => True) : p'.Inv fun _ => True := by
  induction hr with
  | refl => exact h
  | tail _ st ih => exact st.manned ih trivial

/-- Steps of the broker are steps of its pool. -/
lemma Run.broker {l l' : BrokerLoop} (hr : l.Run l') (p : Pool) :
    Run { p with loop := l } { p with loop := l' } := by
  induction hr with
  | refl => exact .refl
  | tail _ st ih => exact ih.tail (.broker st)

/-- A thread goes through a part of its answer. -/
lemma Run.steps {i : Nat} {w : Worker} {m : Multipart}
    {x y : Procedure (Multipart × Worker) × Shared} (hs : Procedure.Steps x y)
    (hi : p.threads[i]? = some ⟨w, .handling m x.1⟩) (hx : p.shared = x.2) :
    Run p { p.setThread i ⟨w, .handling m y.1⟩ with shared := y.2 } := by
  obtain ⟨hlt, hself⟩ := List.getElem?_eq_some_iff.1 hi
  induction hs with
  | refl =>
    have hsame : { p.setThread i ⟨w, .handling m x.1⟩ with shared := x.2 } = p := by
      rw [← hx, setThread, ← hself, List.set_getElem_self]
    rw [hsame]
  | @tail y _ _ hy ih =>
    subst hy
    refine ih.tail ?_
    have st : Step { p.setThread i ⟨w, .handling m y.1⟩ with shared := y.2 } _ :=
      .work (List.getElem?_set_self hlt)
    simpa only [setThread, List.set_set] using st

/-- A thread that listens takes what is in its inbox, answers it and sends the answer. -/
lemma Run.answer {i : Nat} {w w' : Worker} {c rest : Channel Multipart} {m r : Multipart}
    {shared : Shared} (hi : p.threads[i]? = some ⟨w, .listening⟩)
    (hc : p.exchange.inbox? w.id = some c) (hr : c.receive = .item m rest)
    (ha : (w.answer m).run p.shared = (.ok (r, w'), shared)) :
    Run p
      { (p.withExchange ((p.exchange.updateInbox w.id fun _ => rest).tell r)).setThread i
          ⟨w', .listening⟩ with
        shared := shared } := by
  have hlt : i < p.threads.length := (List.getElem?_eq_some_iff.1 hi).1
  let p₁ : Pool := (p.withExchange (p.exchange.updateInbox w.id fun _ => rest)).setThread i
    ⟨w, .handling m (w.answer m)⟩
  have taken : Step p p₁ := .take hi hc hr
  have worked := Run.steps (p := p₁) (Procedure.steps_of_run ha) (List.getElem?_set_self hlt) rfl
  let p₂ : Pool := { p₁.setThread i ⟨w, .handling m (.done (r, w'))⟩ with shared := shared }
  have hi₂ : p₂.threads[i]? = some ⟨w, .handling m (.done (r, w'))⟩ :=
    List.getElem?_set_self (by simpa [p₁, setThread, withExchange] using hlt)
  have replied := Step.reply hi₂
  have hrun := (worked.head taken).tail replied
  simpa only [p₁, p₂, setThread, withExchange, exchange, List.set_set] using hrun

/-- The threads announce themselves one after the other. -/
lemma Run.announce {ready rest : List Worker}
    (ht : p.threads = ready.map (⟨·, .listening⟩) ++ rest.map (⟨·, .starting⟩))
    (hc : p.exchange.backend.capacity = none) (hs : p.exchange.backend.senderOpen = true)
    (hr : p.exchange.backend.receiverOpen = true) :
    ∃ p', Run p p' ∧
      p'.loop = { p.loop with
        exchange := { p.exchange with
          backend := { p.exchange.backend with
            queued := p.exchange.backend.queued ++ rest.map Worker.greeting } } } ∧
      p'.threads = (ready ++ rest).map (⟨·, .listening⟩) ∧ p'.shared = p.shared := by
  induction rest generalizing p ready with
  | nil => exact ⟨p, .refl, by simp, by simp [ht], rfl⟩
  | cons w rest ih =>
    have hi : p.threads[ready.length]? = some ⟨w, .starting⟩ := by simp [ht]
    have hsend : p.exchange.backend.send w.greeting =
        { p.exchange.backend with queued := p.exchange.backend.queued ++ [w.greeting] } := by
      rw [Channel.send, Channel.offer_of_unlimited hc hs hr]
    let p₁ : Pool :=
      (p.withExchange (p.exchange.tell w.greeting)).setThread ready.length ⟨w, .listening⟩
    -- the first of the threads that are left is the one behind those that are ready
    have st : Step p p₁ := .announce hi
    have hbackend : p₁.exchange.backend =
        { p.exchange.backend with queued := p.exchange.backend.queued ++ [w.greeting] } := hsend
    have ht₁ : p₁.threads = (ready ++ [w]).map (⟨·, .listening⟩) ++ rest.map (⟨·, .starting⟩) := by
      simp [p₁, setThread, withExchange, ht]
    obtain ⟨p', hrun, hloop, hthreads, hshared⟩ :=
      ih ht₁ (by rw [hbackend, hc]) (by rw [hbackend, hs]) (by rw [hbackend, hr])
    refine ⟨p', .head st hrun, ?_, ?_, hshared⟩
    · rw [hloop, hbackend]
      simp [p₁, setThread, withExchange, Exchange.tell]
    · rw [hthreads, List.append_assoc]
      rfl

end Pool

/-! ### The service between two inputs -/

/-- Numbers are drawn below their bounds, and the longest pause leaves room for its lengthening. -/
structure Pacing.Sound (p : Pacing) : Prop where
  draws : ∀ attempt, Backoff.IsDraw (p.draw attempt)
  room : p.maximum + p.maximum / 10 < UInt64.size

/-- The supervisor does not crash while it works out how long it pauses. -/
lemma Supervision.pause_eq {s : Supervision} (h : s.pacing.Sound) :
    ∃ attempt milliseconds,
      s.pause = { s with attempt := attempt, state := .pausing milliseconds } := by
  have htold (attempt : Nat) :=
    Backoff.pause_eq_total (h.draws attempt) h.room attempt s.pacing.base
  unfold pause Pacing.pause
  simp only [htold]
  exact ⟨_, _, rfl⟩

namespace SupervisorState

/-- The stage of the broker's loop that the supervisor finds. -/
def stage : SupervisorState → LoopStage
  | .running => .polling
  | .pausing _ | .crashed _ => .ended (.failed .interrupted)
  | .stopped => .ended .stopped
  | .failed error => .ended (.failed error)

/-- The supervisor has given up the broker. -/
def Broken : SupervisorState → Prop
  | .failed _ | .crashed _ => True
  | _ => False

end SupervisorState

namespace Pool

/-- A pool in which the service stands, with all threads listening. -/
structure Reflects (p : Pool) (s : Service) : Prop where
  exchange : p.exchange = s.exchange
  stage : p.loop.stage = s.supervision.state.stage
  threads : p.threads = s.workers.map (⟨·, .listening⟩)
  shared : p.shared = s.shared
  wired : s.exchange.Wired
  staffed : s.workers ≠ []
  paced : s.supervision.pacing.Sound
  unbroken : ¬ s.supervision.state.Broken

namespace Reflects

variable {p : Pool} {s : Service}

/-- Where the broker of the pool stands. -/
lemma loop_eq {st : SupervisorState} (h : p.Reflects s) (hst : s.supervision.state = st) :
    p.loop = ⟨s.exchange, st.stage, p.ledger⟩ := by
  rw [← h.exchange, ← hst, ← h.stage]

/-- The supervisor moves on, and the broker with it. -/
lemma supervise {sup : Supervision} {l : BrokerLoop} (h : p.Reflects s) (hr : p.loop.Run l)
    (he : l.exchange = sup.exchange) (hs : l.stage = sup.state.stage) (hw : l.exchange.Wired)
    (hp : sup.pacing = s.supervision.pacing) (hb : ¬ sup.state.Broken) :
    ∃ p', Run p p' ∧ p'.Reflects { s with supervision := sup } := by
  refine ⟨{ p with loop := l }, Run.broker hr p, he, hs, h.threads, h.shared, ?_, h.staffed,
    hp.symm ▸ h.paced, hb⟩
  rw [he] at hw
  exact hw

/-- As long as no thread ends, polling does not fail but for an interruption. -/
lemma advance (h : p.Reflects s) (hi : p.Inv fun _ => True) :
    ∃ p', Run p p' ∧ p'.Reflects { s with supervision := s.supervision.advance } := by
  unfold Supervision.advance
  cases hst : s.supervision.state with
  | running =>
    have hloop : p.loop = ⟨s.exchange, .polling, p.ledger⟩ := h.loop_eq hst
    have hkept : BrokerLoop.Kept ⟨s.exchange, .polling, p.ledger⟩ := hloop ▸ hi.kept
    obtain ⟨g, hrun⟩ := BrokerLoop.Run.poll (h.exchange ▸ hi.tidy) hkept
    have hwired := hrun.wired ⟨h.wired, nofun⟩
    rw [← hloop] at hrun
    have hmanned := Run.manned (Run.broker hrun p) hi
    rcases hp : s.exchange.poll with ⟨e, how⟩
    have hp' : s.supervision.exchange.poll = (e, how) := hp
    simp only [hp] at hrun hwired hmanned
    simp only [Supervision.runLoop, hp']
    cases how with
    | waiting =>
      have hstage := congrArg SupervisorState.stage hst
      exact h.supervise hrun rfl hstage.symm hwired.exchange rfl h.unbroken
    | stopped => exact h.supervise hrun rfl rfl hwired.exchange rfl id
    | failed error =>
      cases error with
      | interrupted =>
        obtain ⟨attempt, milliseconds, hpause⟩ :=
          Supervision.pause_eq (s := { s.supervision with exchange := e }) h.paced
        dsimp only
        rw [hpause]
        exact h.supervise hrun rfl rfl hwired.exchange rfl id
      | workersGone =>
        -- the broker gives up no worker whose thread is alive, and there is one
        obtain ⟨w, hw⟩ := List.exists_mem_of_ne_nil _ h.staffed
        have ht : ⟨w, .listening⟩ ∈ p.threads := h.threads ▸ List.mem_map_of_mem hw
        exact absurd nofun (hmanned.gone rfl _ ht)
      | frontendClosed => exact absurd rfl hwired.stage
  | _ => exact ⟨p, .refl, h⟩

/-- The supervisor ends a pause with the shutdown, or begins the loop anew. -/
lemma resume (h : p.Reflects s) :
    ∃ p', Run p p' ∧ p'.Reflects { s with supervision := s.supervision.resume } := by
  unfold Supervision.resume
  cases hst : s.supervision.state with
  | pausing rest =>
    have hloop : p.loop = ⟨s.exchange, .ended (.failed .interrupted), p.ledger⟩ := h.loop_eq hst
    have hw := h.wired
    dsimp only
    split
    · next hs =>
      have st := BrokerLoop.Step.stop (e := s.exchange) (g := p.ledger) hs
      rw [← hloop] at st
      exact h.supervise (.single st) rfl rfl
        ⟨hw.unlimited, hw.senderOpen, hw.receiverOpen, hw.boxes⟩ rfl id
    · split
      · have st := BrokerLoop.Step.rebuild (e := s.exchange) (g := p.ledger)
        rw [← hloop] at st
        exact h.supervise (.single st) rfl rfl hw rfl id
      · exact ⟨p, .refl, h⟩
  | _ => exact ⟨p, .refl, h⟩

/-- Time passes: the loop has run for longer, or a pause is over. -/
lemma pass (h : p.Reflects s) (milliseconds : Nat) :
    ∃ p', Run p p' ∧ p'.Reflects { s with supervision := s.supervision.pass milliseconds } := by
  have hexchange : p.loop.exchange = s.exchange := h.exchange
  have hwired : p.loop.exchange.Wired := by
    rw [hexchange]
    exact h.wired
  unfold Supervision.pass
  cases hst : s.supervision.state with
  | running =>
    dsimp only
    exact h.supervise .refl h.exchange (hst ▸ h.stage) hwired rfl id
  | pausing rest =>
    dsimp only
    split
    · have st := BrokerLoop.Step.rebuild (e := s.exchange) (g := p.ledger)
      have hloop : p.loop = ⟨s.exchange, .ended (.failed .interrupted), p.ledger⟩ := h.loop_eq hst
      rw [← hloop] at st
      exact h.supervise (.single st) rfl rfl h.wired rfl id
    · have hstage := congrArg SupervisorState.stage hst
      exact h.supervise .refl h.exchange (h.stage.trans hstage) hwired rfl id
  | _ => exact ⟨p, .refl, h⟩

/-- The supervised broker does what it can. -/
lemma settle (h : p.Reflects s) (hi : p.Inv fun _ => True) :
    ∃ p', Run p p' ∧ p'.Reflects { s with supervision := s.supervision.settle } := by
  obtain ⟨p₁, hr₁, h₁⟩ := h.resume
  obtain ⟨p₂, hr₂, h₂⟩ := h₁.advance (Run.manned hr₁ hi)
  obtain ⟨p₃, hr₃, h₃⟩ := h₂.resume
  have hrun : Run p p₃ := hr₁.trans (hr₂.trans hr₃)
  obtain ⟨p₄, hr₄, h₄⟩ := h₃.advance (hrun.manned hi)
  exact ⟨p₄, hrun.trans hr₄, h₄⟩

/-- What the service finds to do is in the inbox of one of its workers. -/
lemma nextTask?_eq_some {w : Worker} {m : Multipart} {rest : Channel Multipart}
    (h : s.nextTask? = some (w, m, rest)) :
    w ∈ s.workers ∧ ∃ c, s.exchange.inbox? w.id = some c ∧ c.receive = .item m rest := by
  obtain ⟨u, hu, hm⟩ := List.exists_of_findSome?_eq_some h
  split at hm
  · next m' rest' hr =>
    cases hm
    obtain ⟨c, hc, hr⟩ := Option.map_eq_some_iff.1 hr
    exact ⟨hu, c, hc, hr⟩
  · cases hm

/-- A worker answers what is in its inbox. -/
lemma perform {w : Worker} {m : Multipart} {rest : Channel Multipart} (h : p.Reflects s)
    (hi : p.Inv fun _ => True) (ht : s.nextTask? = some (w, m, rest)) :
    ∃ p', Run p p' ∧ p'.Reflects (s.perform w m rest) := by
  obtain ⟨hw, c, hc, hr⟩ := nextTask?_eq_some ht
  obtain ⟨⟨r, w'⟩, shared, ha⟩ := w.answer_ends m s.shared
  obtain ⟨i, hlt, rfl⟩ := List.mem_iff_getElem.1 hw
  have hi' : s.workers[i]? = some s.workers[i] := List.getElem?_eq_getElem hlt
  have hthread : p.threads[i]? = some ⟨s.workers[i], .listening⟩ := by
    rw [h.threads, List.getElem?_map, hi']
    rfl
  have hids : (s.workers.map (·.id)).Nodup := by
    have hnodup := hi.stationed.nodup
    rwa [h.threads, List.map_map] at hnodup
  have hset : (s.setWorker w').workers = s.workers.set i w' :=
    map_replace_eq_set hids hi' (Worker.id_of_run ha)
  have hrun := Run.answer hthread (h.exchange ▸ hc) hr (h.shared ▸ ha)
  refine ⟨_, hrun, ?_⟩
  have hperform : s.perform s.workers[i] m rest =
      { s.setWorker w' with shared := shared }.withExchange fun _ =>
        (s.exchange.updateInbox s.workers[i].id fun _ => rest).tell r := by
    simp only [Service.perform, Service.withExchange, ha]
    rfl
  have hthreads : p.threads.set i ⟨w', .listening⟩ =
      (s.setWorker w').workers.map (⟨·, .listening⟩) := by
    rw [hset, List.map_set, h.threads]
  have hstaffed : (s.setWorker w').workers ≠ [] := by
    intro hnil
    exact h.staffed (List.map_eq_nil_iff.1 hnil)
  rw [hperform]
  refine ⟨?_, h.stage, hthreads, rfl, ?_, hstaffed, h.paced, h.unbroken⟩
  · show (p.exchange.updateInbox _ _).tell r = (s.exchange.updateInbox _ _).tell r
    rw [h.exchange]
  · have hw := h.wired
    exact ⟨hw.unlimited, hw.senderOpen, hw.receiverOpen, hw.boxes⟩

/-- The broker and the workers do what they can. -/
lemma work (h : p.Reflects s) (hi : p.Inv fun _ => True) (count : Nat) :
    ∃ p', Run p p' ∧ p'.Reflects (s.work count) := by
  induction count generalizing p s with
  | zero => exact h.settle hi
  | succ count ih =>
    obtain ⟨p₁, hr₁, h₁⟩ := h.settle hi
    unfold Service.work
    dsimp only
    split
    · next w m rest ht =>
      obtain ⟨p₂, hr₂, h₂⟩ := h₁.perform (Run.manned hr₁ hi) ht
      have hrun : Run p p₂ := hr₁.trans hr₂
      obtain ⟨p₃, hr₃, h₃⟩ := ih h₂ (hrun.manned hi)
      exact ⟨p₃, hrun.trans hr₃, h₃⟩
    · exact ⟨p₁, hr₁, h₁⟩

end Reflects

end Pool

end Wayfinding
