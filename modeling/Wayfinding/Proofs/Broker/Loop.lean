import Wayfinding.Proofs.Broker.Inbox

/-!
# The broker's loop, step by step

The loop attends to one message, then goes through the rounds of a dispatch, and begins anew. Here
it does so in single steps, between which everybody else may act, and it may attend to whatever is
there, not only to what `Exchange.next?` prefers. A ledger notes what goes through the broker's
hands.

Main definitions:
* `Exchange.Offers`: what the broker can attend to.
* `BrokerLoop.Step`: the steps of the loop.
* `BrokerLoop.Reachable`: the states of runs in which others do what they like to the channels.

Main lemmas: `offers_of_next?`, `reply?_eq_some`, `receiveWorker_of_reply?_eq_none`.
-/

namespace Wayfinding

namespace Exchange

/-- What the broker can attend to, and the exchange without it. -/
inductive Offers (e : Exchange) : Event → Exchange → Prop where
  | stop :
    e.stopping = true →
    Offers e .stop { e with stopping := false }
  | interruption :
    e.interrupted = true →
    Offers e (.fail .interrupted) { e with interrupted := false }
  | worker {m rest} :
    e.backend.receive = .item m rest →
    Offers e (.worker m) { e with backend := rest }
  | workersGone :
    e.backend.receive = .closed →
    Offers e (.fail .workersGone) e
  | client {m rest} :
    e.broker.pending.length < e.broker.maxPending →
    e.frontend.receive = .item m rest →
    Offers e (.client m) { e with frontend := rest }
  | frontendClosed :
    e.broker.pending.length < e.broker.maxPending →
    e.frontend.receive = .closed →
    Offers e (.fail .frontendClosed) e

/-- What the broker attends to first is something that it can attend to. -/
lemma offers_of_next? {e r : Exchange} {event : Event} (h : e.next? = some (event, r)) :
    e.Offers event r := by
  unfold next? at h
  split at h
  · next hs =>
    cases h
    exact .stop hs
  · split at h
    · next hi =>
      cases h
      exact .interruption hi
    · split at h
      · next hb =>
        cases h
        exact .worker hb
      · next hb =>
        cases h
        exact .workersGone hb
      · split at h
        · next hp =>
          split at h
          · next hf =>
            cases h
            exact .client hp hf
          · next hf =>
            cases h
            exact .frontendClosed hp hf
          · cases h
        · cases h

/-- Taking something to attend to leaves the broker as it is. -/
lemma Offers.broker {e r : Exchange} {event : Event} (h : e.Offers event r) :
    r.broker = e.broker := by
  cases h <;> rfl

end Exchange

/-! ### Replies -/

namespace Broker

variable {b : Broker} {m : Multipart} {w : WorkerId} {e : Envelope}

/-- The reply that a message of a known worker carries, if it carries one. -/
def reply? (b : Broker) : Multipart → Option (WorkerId × Envelope)
  | [] => none
  | identity :: rest =>
    if ⟨identity⟩ ∈ b.workers ∧ rest ≠ [readyFrame] then
      (Envelope.parse rest).toOption.map fun e => (⟨identity⟩, e)
    else none

/-- Which messages carry a reply. -/
lemma reply?_eq_some (h : b.reply? m = some (w, e)) :
    m = w.frame :: e.frames ∧ e.client ≠ [] ∧ w ∈ b.workers := by
  unfold reply? at h
  split at h
  · simp at h
  · next identity rest =>
    split at h
    · next hc =>
      cases hp : Envelope.parse rest with
      | error => simp [hp, Except.toOption] at h
      | ok e' =>
        obtain ⟨hr, hne⟩ := Envelope.eq_frames_of_parse hp
        simp only [hp, Except.toOption, Option.map_some, Option.some.injEq, Prod.mk.injEq] at h
        obtain ⟨rfl, rfl⟩ := h
        exact ⟨by rw [hr], hne, hc.1⟩
    · simp at h

/-- The frames of an envelope are no announcement. -/
lemma frames_ne_ready (e : Envelope) : e.frames ≠ [readyFrame] := by
  simp [Envelope.frames]

/-- A reply is read from its frames. -/
lemma reply?_frames (hw : w ∈ b.workers) (he : e.client ≠ []) :
    b.reply? (w.frame :: e.frames) = some (w, e) := by
  simp [reply?, hw, frames_ne_ready, Envelope.parse_frames he, Except.toOption]

/-- A reply makes its worker idle and is to be delivered. -/
lemma receiveWorker_frames (hw : w ∈ b.workers) (he : e.client ≠ []) :
    b.receiveWorker (w.frame :: e.frames) = (b.release w, delivery? e) := by
  simp [receiveWorker, receiveKnown, hw, frames_ne_ready, Envelope.parse_frames he]

/-- An announcement makes its worker idle, and nothing is delivered. -/
lemma receiveWorker_ready (hw : w ∈ b.workers) :
    b.receiveWorker (readyMessage w) = ({ b with ready := (b.ready.markReady w).2 }, none) := by
  simp [receiveWorker, receiveKnown, readyMessage, hw]

/-- An announcement carries no reply. -/
lemma reply?_ready (b : Broker) (w : WorkerId) : b.reply? (readyMessage w) = none := by
  simp [reply?, readyMessage]

/-- A message without a reply delivers nothing. -/
lemma receiveWorker_of_reply?_eq_none (h : b.reply? m = none) : (b.receiveWorker m).2 = none := by
  cases m with
  | nil => rfl
  | cons identity rest =>
    by_cases hw : (⟨identity⟩ : WorkerId) ∈ b.workers
    · by_cases hr : rest = [readyFrame]
      · subst hr
        exact congrArg Prod.snd (receiveWorker_ready hw)
      · cases hp : Envelope.parse rest with
        | ok e => simp [reply?, hw, hr, hp, Except.toOption] at h
        | error => simp [receiveWorker, receiveKnown, hw, hr, hp]
    · simp [receiveWorker, hw]

/-- The broker after the message of a worker has the same workers and requests. -/
lemma receiveWorker_fields (b : Broker) (m : Multipart) :
    (b.receiveWorker m).1.workers = b.workers ∧ (b.receiveWorker m).1.pending = b.pending ∧
      (b.receiveWorker m).1.maxPending = b.maxPending := by
  cases m with
  | nil => exact ⟨rfl, rfl, rfl⟩
  | cons identity rest =>
    simp only [receiveWorker, receiveKnown, release]
    grind

/-- The message of a worker keeps the ready queue sound. -/
lemma receiveWorker_sound (h : b.ready.Sound) (m : Multipart) :
    (b.receiveWorker m).1.ready.Sound := by
  cases m with
  | nil => exact h
  | cons identity rest =>
    have hm := h.markReady ⟨identity⟩
    simp only [receiveWorker, receiveKnown, release]
    grind

/-- The message of a worker changes the state of no other. -/
lemma state?_receiveWorker_of_ne (h : m.head? ≠ some w.frame) :
    (b.receiveWorker m).1.ready.state? w = b.ready.state? w := by
  cases m with
  | nil => rfl
  | cons identity rest =>
    have hne : w ≠ ⟨identity⟩ := by
      rintro rfl
      exact h rfl
    have hm := ReadyQueue.state?_markReady_of_ne (q := b.ready) hne
    simp only [receiveWorker, receiveKnown, release]
    grind

end Broker

/-! ### The ledger -/

/-- A request that a worker was handed, and the reply that the broker took from it. -/
structure Answer where
  handOff : Broker.HandOff
  reply : Envelope

/-- What has gone through the broker's hands. -/
structure Ledger where
  /-- The requests that were taken from clients. -/
  taken : List Envelope := []
  /-- The requests that were handed to workers. -/
  handed : List Broker.HandOff := []
  /-- Those of them to which no reply has been taken. -/
  outstanding : List Broker.HandOff := []
  /-- Those to which one has. -/
  answered : List Answer := []
  /-- The messages that were put into mailboxes. -/
  delivered : List (ClientId × Multipart) := []

namespace Ledger

/-- Notes the message of a client. -/
def take (g : Ledger) (m : Multipart) : Ledger :=
  match Envelope.parse m with
  | .ok e => { g with taken := g.taken ++ [e] }
  | .error _ => g

/-- Notes that requests were handed to workers. -/
def hand (g : Ledger) (os : List Broker.HandOff) : Ledger :=
  { g with handed := g.handed ++ os, outstanding := g.outstanding ++ os }

/-- Notes the reply of a worker to the request that it was handed. -/
def settle (g : Ledger) (w : WorkerId) (reply : Envelope) : Ledger :=
  match g.outstanding.find? fun o => o.worker = w with
  | some o =>
    { g with
      outstanding := g.outstanding.filter fun o => o.worker ≠ w
      answered := g.answered ++ [⟨o, reply⟩] }
  | none => g

/-- Notes what is put into a mailbox for a reply. -/
def deliver (g : Ledger) (r : Registry) (reply : Envelope) : Ledger :=
  match Broker.delivery? reply with
  | some (c, m) => if r.reaches c then { g with delivered := g.delivered ++ [(c, m)] } else g
  | none => g

/-- Notes what the broker attends to. -/
def attend (g : Ledger) (e : Exchange) : Exchange.Event → Ledger
  | .client m => g.take m
  | .worker m =>
    match e.broker.reply? m with
    | some (w, reply) => (g.settle w reply).deliver e.registry reply
    | none => g
  | _ => g

end Ledger

/-! ### Steps -/

/-- Where the loop stands. -/
inductive LoopStage where
  /-- It looks for something to attend to. -/
  | polling
  /-- It hands out requests. -/
  | dispatching
  | ended (how : Exchange.LoopEnd)
deriving DecidableEq

/-- The broker at work. -/
structure BrokerLoop where
  exchange : Exchange
  stage : LoopStage := .polling
  ledger : Ledger := {}

namespace BrokerLoop

/-- The steps of the broker. A loop that was interrupted is begun anew, unless the shutdown comes
first. -/
inductive Step : BrokerLoop → BrokerLoop → Prop where
  | attend {e r g event} :
    Exchange.Offers e event r →
    event.loopEnd? = none →
    Step ⟨e, .polling, g⟩ ⟨r.attend event, .dispatching, g.attend r event⟩
  | finish {e r g event how} :
    Exchange.Offers e event r →
    event.loopEnd? = some how →
    Step ⟨e, .polling, g⟩ ⟨r, .ended how, g⟩
  | round {e g d} :
    e.broker.Round e.accepts d →
    d.workersGone = false →
    Step ⟨e, .dispatching, g⟩ ⟨e.carryOut d, .dispatching, g.hand d.handOffs⟩
  | lastRound {e g d} :
    e.broker.Round e.accepts d →
    d.workersGone = true →
    Step ⟨e, .dispatching, g⟩ ⟨e.carryOut d, .ended (.failed .workersGone), g.hand d.handOffs⟩
  | rest {e g} :
    e.broker.Quiet →
    Step ⟨e, .dispatching, g⟩ ⟨e, .polling, g⟩
  | rebuild {e g} :
    Step ⟨e, .ended (.failed .interrupted), g⟩ ⟨e, .polling, g⟩
  | stop {e g} :
    e.stopping = true →
    Step ⟨e, .ended (.failed .interrupted), g⟩ ⟨{ e with stopping := false }, .ended .stopped, g⟩

/-- The states of runs that begin with a fresh broker, in which others may at any time do what they
like to everything but the broker itself: send any messages, fill, empty or close any inbox, connect
and disconnect clients, interrupt the loop. -/
inductive Reachable : BrokerLoop → Prop where
  | start {e} :
    e.broker.ready = {} →
    e.broker.pending = [] →
    Reachable ⟨e, .polling, {}⟩
  | step {l l'} :
    Reachable l →
    Step l l' →
    Reachable l'
  | outside {e e' s g} :
    Reachable ⟨e, s, g⟩ →
    e'.broker = e.broker →
    Reachable ⟨e', s, g⟩

end BrokerLoop

end Wayfinding
