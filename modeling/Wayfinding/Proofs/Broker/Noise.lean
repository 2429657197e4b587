import Wayfinding.Proofs.Broker.Turns

/-!
# Noise

The broker discards messages in which it finds neither a request nor a reply nor an announcement,
and announcements of workers that are idle anyway; a loop that was interrupted is begun anew with
the state that it had. None of this can be told from how things stand afterwards. A dispatch follows
every message, also those that are discarded, but it finds nothing to hand out.

Main definitions:
* `Broker.Noise`: what changes nothing.
* `BrokerLoop.Noisy`: some turns, with noise anywhere between them.

Main statement: `BrokerLoop.unmoved_by_noise`.
-/

namespace Wayfinding

/-- The shape of an addressed message: an address that is not blank, a blank frame and the
payload. -/
def Envelope.Shape (m : Multipart) : Prop :=
  ∃ client payload : Frame, client ≠ [] ∧ m = [client, [], payload]

/-- What has not the shape of an envelope is not read as one. -/
lemma Envelope.parse_of_not_shape {m : Multipart} (h : ¬Envelope.Shape m) :
    ∃ error, Envelope.parse m = .error error := by
  cases hp : Envelope.parse m with
  | error error => exact ⟨error, rfl⟩
  | ok e =>
    obtain ⟨hm, hne⟩ := Envelope.eq_frames_of_parse hp
    exact absurd ⟨e.client, e.payload, hne, hm⟩ h

/-- What changes nothing about the broker. -/
inductive Broker.Noise (b : Broker) : Exchange.Event → Prop where
  /-- A message from the clients' side that is no request. -/
  | request {m : Multipart} :
    ¬Envelope.Shape m →
    Noise b (.client m)
  /-- A message from the workers' side without a sender. -/
  | blank :
    Noise b (.worker [])
  /-- A message of somebody who is not served. -/
  | stranger {identity : Frame} {rest : Multipart} :
    ⟨identity⟩ ∉ b.workers →
    Noise b (.worker (identity :: rest))
  /-- A message that is neither an announcement nor a reply. -/
  | shapeless {identity : Frame} {rest : Multipart} :
    rest ≠ [Broker.readyFrame] →
    ¬Envelope.Shape rest →
    Noise b (.worker (identity :: rest))
  /-- An announcement of a worker that is idle. -/
  | repeated {w : WorkerId} :
    b.ready.state? w = some .idle →
    Noise b (.worker (Broker.readyMessage w))
  | interruption :
    Noise b (.fail .interrupted)

namespace Broker

variable {b : Broker} {m : Multipart}

/-- Noise from the workers' side makes nobody idle, and carries no reply. -/
lemma receiveWorker_noise (h : Noise b (.worker m)) :
    b.receiveWorker m = (b, none) ∧ b.reply? m = none := by
  generalize hev : Exchange.Event.worker m = event at h
  cases h with
  | request => cases hev
  | interruption => cases hev
  | blank =>
    cases hev
    exact ⟨rfl, rfl⟩
  | stranger hw =>
    cases hev
    simp [receiveWorker, reply?, hw]
  | shapeless hr hshape =>
    cases hev
    obtain ⟨error, hp⟩ := Envelope.parse_of_not_shape hshape
    simp [receiveWorker, receiveKnown, reply?, hr, hp, Except.toOption]
  | @repeated w hidle =>
    cases hev
    refine ⟨?_, b.reply?_ready w⟩
    by_cases hw : w ∈ b.workers
    · simp [receiveWorker_ready hw, ReadyQueue.markReady, hidle]
    · simp [receiveWorker, readyMessage, hw]

/-- Noise at most interrupts the loop. -/
lemma Noise.loopEnd? {event : Exchange.Event} (h : Noise b event) :
    event.loopEnd? = none ∨ event.loopEnd? = some (.failed .interrupted) := by
  cases h with
  | request => exact .inl rfl
  | blank => exact .inl rfl
  | stranger => exact .inl rfl
  | shapeless => exact .inl rfl
  | repeated => exact .inl rfl
  | interruption => exact .inr rfl

/-- Noise from the clients' side is not queued. -/
lemma receiveClient_noise (h : ¬Envelope.Shape m) : b.receiveClient m = b := by
  obtain ⟨error, hp⟩ := Envelope.parse_of_not_shape h
  simp [receiveClient, hp]

end Broker

/-- Noise reaches nobody. -/
lemma Exchange.attend_noise {e : Exchange} {event : Exchange.Event}
    (h : e.broker.Noise event) : e.attend event = e := by
  cases event with
  | stop => rfl
  | fail => rfl
  | worker m =>
    obtain ⟨hm, -⟩ := Broker.receiveWorker_noise h
    simp only [attend, receiveWorker, deliver, hm]
  | client m =>
    cases h with
    | request hm => simp only [attend, receiveClient, Broker.receiveClient_noise hm]

/-- Nothing is noted about noise. -/
lemma Ledger.attend_noise {e : Exchange} {event : Exchange.Event} (h : e.broker.Noise event)
    (g : Ledger) : g.attend e event = g := by
  cases event with
  | stop => rfl
  | fail => rfl
  | worker m =>
    obtain ⟨-, hm⟩ := Broker.receiveWorker_noise h
    simp only [attend, hm]
  | client m =>
    cases h with
    | request hm =>
      obtain ⟨error, hp⟩ := Envelope.parse_of_not_shape hm
      simp only [attend, take, hp]

/-- A turn with noise leaves things as they stand. -/
lemma Standing.turn_noise {s : Standing} {t : Turn} (hs : s.ended = none) (hq : s.broker.Quiet)
    (h : s.broker.Noise t.event) : s.turn t = s := by
  obtain ⟨b, g, ended⟩ := s
  obtain rfl : ended = none := hs
  obtain hend | hend := h.loopEnd?
  · let e : Exchange := { broker := b, registry := t.registry }
    have he : e.broker.Noise t.event := h
    calc turn ⟨e.broker, g, none⟩ t
      _ = dispatched (e.attend t.event).broker (g.attend e t.event) t.accepts :=
        turn_attend hend rfl
      _ = dispatched b g t.accepts := by rw [Exchange.attend_noise he, Ledger.attend_noise he]
      _ = ⟨b, g, none⟩ := dispatched_quiet hq
  · exact turn_interruption hend

namespace BrokerLoop

open Standing

/-- The second list has the turns of the first, in the same order, and before, between and after
them any number of turns in which the loop finds noise. -/
inductive Noisy (b : Broker) : List Turn → List Turn → Prop where
  | nil : Noisy b [] []
  | turn {ts ts' : List Turn} {t : Turn} :
    Noisy b ts ts' →
    Noisy b (ts ++ [t]) (ts' ++ [t])
  | noise {ts ts' : List Turn} {t : Turn} :
    Noisy b ts ts' →
    (play b ts').Admits t →
    (play b ts').broker.Noise t.event →
    Noisy b ts (ts' ++ [t])

variable {b : Broker} {l : BrokerLoop} {s : Standing} {ts ts' : List Turn}

/-- How things stand does not depend on noise. -/
lemma Noisy.play_eq (h : Noisy b ts ts') (hb : b.pending = []) : play b ts' = play b ts := by
  induction h with
  | nil => rfl
  | turn _ ih => rw [play_concat, play_concat, ih]
  | noise _ hadm hnoise ih =>
    rw [play_concat, turn_noise hadm.1 (quiet_play hb hadm.1) hnoise, ih]

/-- Noise can be inserted wherever a course comes by. -/
lemma Noisy.insert {t : Turn} (h : Noisy b ts ts') (hc : Course b ts l) (hs : l.Stands s)
    (hadm : s.Admits t) (hnoise : s.broker.Noise t.event) : Noisy b ts (ts' ++ [t]) := by
  have hplay : play b ts' = s := (h.play_eq hc.pending_eq_nil).trans (hc.play_eq hs)
  exact h.noise (hplay.symm ▸ hadm) (hplay.symm ▸ hnoise)

/-- A course can be had with noise as well. -/
lemma Noisy.exists_course (h : Noisy b ts ts') (hb : b.pending = []) (hc : Course b ts l)
    (hs : l.Stands s) : ∃ l', Course b ts' l' ∧ l'.Stands (play b ts') := by
  induction h generalizing l s with
  | nil => exact ⟨l, hc, hc.play_eq hs ▸ hs⟩
  | turn hn ih =>
    -- the loop admits the turn without the noise, so it does with it
    obtain ⟨l₀, hc₀, hs₀, hadm⟩ := hc.init
    obtain ⟨l₁, hc₁, hs₁⟩ := ih hc₀ hs₀
    rw [← hn.play_eq hb] at hadm
    exact hc₁.extend hs₁ hadm
  | noise _ hadm _ ih =>
    obtain ⟨l₁, hc₁, hs₁⟩ := ih hc hs
    exact hc₁.extend hs₁ hadm

/-- Every run of a fresh broker is a course, and noise leaves every course as it is: with any number
of turns with noise inserted anywhere, the loop can come to stand where it stood without them, and
wherever it comes to stand between two turns, the broker has the same workers, the same ready queue
and the same waiting requests, the same requests have been handed to each worker and the same
replies delivered to each client, in the same order, and the loop has ended in the same way or
goes on as well. -/
theorem unmoved_by_noise :
    (∀ l, Reachable l ↔ ∃ b ts, Course b ts l) ∧
      ∀ b ts l s, Course b ts l → l.Stands s → ∀ ts', Noisy b ts ts' →
        (∃ l', Course b ts' l' ∧ l'.Stands s) ∧
          ∀ l' s', Course b ts' l' → l'.Stands s' →
            l'.exchange.broker = l.exchange.broker ∧ l'.ledger = l.ledger ∧
              s'.ended = s.ended := by
  refine ⟨fun l => reachable_iff_course, fun b ts l s hc hs ts' hn => ?_⟩
  have hplay : play b ts' = s := (hn.play_eq hc.pending_eq_nil).trans (hc.play_eq hs)
  refine ⟨?_, fun l' s' hc' hs' => ?_⟩
  · rw [← hplay]
    exact hn.exists_course hc.pending_eq_nil hc hs
  · obtain rfl : s' = s := by rw [← hc'.play_eq hs', hplay]
    exact ⟨hs'.broker_eq.symm.trans hs.broker_eq, hs'.ledger_eq.symm.trans hs.ledger_eq, rfl⟩

/-- What the loop finds when it attends to something at the crossroads: only the second worker
accepts a request. -/
def crossroadsTurn (event : Exchange.Event) : Turn where
  event := event
  registry := {}
  accepts := (· = ⟨[1]⟩)

/-- Both workers announce themselves, and a client makes a request. -/
def crossroadsTurns : List Turn :=
  [crossroadsTurn (.worker (Broker.readyMessage ⟨[0]⟩)),
    crossroadsTurn (.worker (Broker.readyMessage ⟨[1]⟩)),
    crossroadsTurn (.client [[7], [], [9]])]

/-- The same with noise of every kind: a message without a sender, an announcement made twice, a
message of a stranger, an interruption, a reply with a blank address, and a request without one. -/
def noisyTurns : List Turn :=
  [crossroadsTurn (.worker []),
    crossroadsTurn (.worker (Broker.readyMessage ⟨[0]⟩)),
    crossroadsTurn (.worker (Broker.readyMessage ⟨[0]⟩)),
    crossroadsTurn (.worker [[5], [7], [], [9]]),
    crossroadsTurn (.worker (Broker.readyMessage ⟨[1]⟩)),
    crossroadsTurn (.fail .interrupted),
    crossroadsTurn (.worker [[0], [], [], [9]]),
    crossroadsTurn (.client [[9]]),
    crossroadsTurn (.client [[7], [], [9]])]

/-- With and without noise, the request is handed to the second worker. -/
theorem unmoved_by_noise_crossroads : ∃ l l',
    Course crossroads.broker crossroadsTurns l ∧ Course crossroads.broker noisyTurns l' ∧
      l.ledger.handed = [⟨⟨[1]⟩, [[7], [], [9]]⟩] ∧ l'.exchange.broker = l.exchange.broker ∧
        l'.ledger = l.ledger := by
  have started : Course crossroads.broker [] ⟨crossroads, .polling, {}⟩ := .start rfl rfl rfl
  have first := (started.attend (t := crossroadsTurn (.worker _)) (.worker rfl) rfl rfl).dispatch
    (fun _ hd => absurd (.inl rfl) hd.not_quiet) (.rest (.inl rfl))
  have second := (first.attend (t := crossroadsTurn (.worker _)) (.worker rfl) rfl rfl).dispatch
    (fun _ hd => absurd (.inl rfl) hd.not_quiet) (.rest (.inl rfl))
  have taken := second.attend (t := crossroadsTurn (.client _)) (.client (by decide) rfl) rfl rfl
  -- the first worker is asked and does not accept, the second accepts
  have givenUp := taken.dispatch
    (fun _ hd => hd.congr fun w r hn _ => by
      cases hn
      decide)
    (.round (.giveUp rfl rfl (by decide) (by decide) rfl) (by decide))
  have handed := givenUp.dispatch
    (fun _ hd => hd.congr fun w r hn _ => by
      cases hn
      decide)
    (.round (.hand rfl rfl (by decide) (by decide)) rfl)
  have rested := handed.dispatch (fun _ hd => absurd (.inl rfl) hd.not_quiet) (.rest (.inl rfl))
  have before : Noisy crossroads.broker [] (noisyTurns.take 1) :=
    Noisy.nil.insert started .polling ⟨rfl, trivial⟩ .blank
  have between : Noisy crossroads.broker (crossroadsTurns.take 1) (noisyTurns.take 4) :=
    before.turn.insert (t := crossroadsTurn (.worker (Broker.readyMessage ⟨[0]⟩))) first .polling
        ⟨rfl, trivial⟩ (.repeated (by decide))
      |>.insert (t := crossroadsTurn (.worker [[5], [7], [], [9]])) first .polling
        ⟨rfl, trivial⟩ (.stranger (by decide))
  have later : Noisy crossroads.broker (crossroadsTurns.take 2) (noisyTurns.take 8) :=
    between.turn.insert (t := crossroadsTurn (.fail .interrupted)) second .polling
        ⟨rfl, trivial⟩ .interruption
      |>.insert (t := crossroadsTurn (.worker [[0], [], [], [9]])) second .polling
        ⟨rfl, trivial⟩ (.shapeless (by decide) (by simp [Envelope.Shape]))
      |>.insert (t := crossroadsTurn (.client [[9]])) second .polling
        ⟨rfl, Nat.zero_lt_two⟩ (.request (by simp [Envelope.Shape]))
  have noisy : Noisy crossroads.broker crossroadsTurns noisyTurns := later.turn
  obtain ⟨-, hnoise⟩ := unmoved_by_noise
  obtain ⟨⟨l', hc', hs'⟩, hall⟩ := hnoise _ _ _ _ rested .polling _ noisy
  obtain ⟨hbroker, hledger, -⟩ := hall l' _ hc' hs'
  exact ⟨_, l', rested, hc', rfl, hbroker, hledger⟩

end BrokerLoop

end Wayfinding
