import Wayfinding.Proofs.Service.Pool

/-!
# Where a worker stands

What the broker and the channels have of a worker must fit what its thread is doing: `Fits` lists
the combinations that occur. The lemmas say what each move of the broker or of the thread makes of
such a combination, for one worker at a time.

Main definitions: `Exchange.view`, `Fits`.
Main lemmas: `Fits.hear`, `Fits.of_idle`, `Fits.take`, `Fits.reply`.
-/

namespace Wayfinding

/-- What the broker and the channels have of a worker. -/
structure View where
  /-- The messages of the worker that the broker has not taken. -/
  sent : List Multipart
  state : Option WorkerState
  inbox : Option (Channel Multipart)
  /-- Whether the broker serves the worker. -/
  served : Bool
  /-- The request that was handed to the worker and that it has not answered. -/
  duty : Option Multipart

/-- The request that was handed to a worker and not answered. -/
def Ledger.duty (g : Ledger) (w : WorkerId) : Option Multipart :=
  (g.outstanding.find? fun o => o.worker = w).map (·.request)

/-- What an exchange has of a worker. -/
def Exchange.view (e : Exchange) (g : Ledger) (w : WorkerId) : View where
  sent := e.backend.queued.filter fun m => m.head? = some w.frame
  state := e.broker.ready.state? w
  inbox := e.inbox? w
  served := decide (w ∈ e.broker.workers)
  duty := g.duty w

/-- What there is of nobody's worker. -/
def View.nobody : View := ⟨[], none, none, false, none⟩

/-- An inbox with nothing in it. -/
def Channel.vacant : Channel Multipart := { capacity := some 1 }

/-- An inbox with one message in it. -/
def Channel.holding (m : Multipart) : Channel Multipart := { queued := [m], capacity := some 1 }

/-- What there is of a worker fits what its thread does. -/
inductive Fits (P : Shared → Prop) (w : Worker) : View → Activity → Prop where
  | away :
    Fits P w ⟨[], none, some .vacant, true, none⟩ .starting
  | greeted :
    Fits P w ⟨[w.greeting], none, some .vacant, true, none⟩ .listening
  | idle :
    Fits P w ⟨[], some .idle, some .vacant, true, none⟩ .listening
  | offered {e : Envelope} :
    e.client ≠ [] →
    Fits P w ⟨[], some .busy, some (.holding e.frames), true, some e.frames⟩ .listening
  | handling {e : Envelope} {p} :
    e.client ≠ [] →
    (w.answer e.frames).Leads P p →
    Fits P w ⟨[], some .busy, some .vacant, true, some e.frames⟩ (.handling e.frames p)
  | replied {e : Envelope} {reply} :
    e.client ≠ [] →
    w.handler.Answers P e.payload reply →
    Fits P w
      ⟨[w.id.frame :: Envelope.frames ⟨e.client, reply⟩], some .busy, some .vacant, true,
        some e.frames⟩ .listening
  | ended {v a} :
    Fits P w v a →
    Fits P w { v with inbox := v.inbox.map .closeReceiver } .ended
  | forgotten {c} :
    c.queued = [] →
    c.senderOpen = false →
    Fits P w ⟨[], none, some c, false, none⟩ .ended

namespace Fits

variable {P : Shared → Prop} {w w' : Worker} {v : View} {a : Activity} {m r : Multipart}

/-! ### What the broker can find -/

/-- When the broker takes a message of a worker, it is the only one. It is the announcement, or a
reply to the request that the worker has; either way the worker is idle afterwards. -/
lemma hear {rest : List Multipart} (h : Fits P w v a) (hs : v.sent = m :: rest) :
    rest = [] ∧ v.served = true ∧
      (m = w.greeting ∧ v.duty = none ∨
        v.state = some .busy ∧ ∃ (e : Envelope) (reply : List UInt8),
          m = w.id.frame :: Envelope.frames ⟨e.client, reply⟩ ∧ e.client ≠ [] ∧
            w.handler.Answers P e.payload reply ∧ v.duty = some e.frames) ∧
      Fits P w { v with sent := [], state := some .idle, duty := none } a := by
  induction h with
  | away => cases hs
  | greeted =>
    cases hs
    exact ⟨rfl, rfl, .inl ⟨rfl, rfl⟩, .idle⟩
  | idle => cases hs
  | offered => cases hs
  | handling => cases hs
  | replied hc ha =>
    cases hs
    exact ⟨rfl, rfl, .inr ⟨rfl, _, _, rfl, hc, ha, rfl⟩, .idle⟩
  | ended _ ih =>
    obtain ⟨hr, hv, hm, hf⟩ := ih hs
    exact ⟨hr, hv, hm, .ended hf⟩
  | forgotten => cases hs

/-- An idle worker has no request. Its inbox has room and can be filled, unless its thread has
ended; then the worker can be given up. -/
lemma of_idle (h : Fits P w v a) (hs : v.state = some .idle) :
    v.sent = [] ∧ v.served = true ∧ v.duty = none ∧ ∃ c, v.inbox = some c ∧
      (c.offer = .sent ∧ a ≠ .ended ∧ (∀ e : Envelope, e.client ≠ [] →
          Fits P w
            { v with
              state := some .busy
              inbox := some (c.send e.frames)
              duty := some e.frames } a) ∨
        c.offer = .closed ∧ a = .ended ∧
          Fits P w { v with state := none, inbox := some c.closeSender, served := false } a) := by
  induction h with
  | away => cases hs
  | greeted => cases hs
  | idle => exact ⟨rfl, rfl, rfl, _, rfl, .inl ⟨rfl, nofun, fun e he => .offered he⟩⟩
  | offered => cases hs
  | handling => cases hs
  | replied => cases hs
  | @ended v a _ ih =>
    obtain ⟨hm, hv, hd, c, hc, -⟩ := ih hs
    obtain ⟨sent, state, inbox, served, duty⟩ := v
    obtain ⟨rfl, rfl, rfl, rfl⟩ : sent = [] ∧ served = true ∧ duty = none ∧ inbox = some c :=
      ⟨hm, hv, hd, hc⟩
    refine ⟨rfl, rfl, rfl, _, rfl, .inr ⟨?_, rfl, .forgotten rfl rfl⟩⟩
    simp [Channel.offer, Channel.closeReceiver]
  | forgotten => cases hs

/-- A worker is busy as long as it has a request that it has not answered. -/
lemma busy_iff (h : Fits P w v a) : v.state = some .busy ↔ v.duty ≠ none := by
  induction h with
  | ended _ ih => exact ih
  | _ => simp

/-- What is in the inbox of a worker, or what its thread handles, is the request that it has. -/
lemma request (h : Fits P w v a) :
    (∀ c, v.inbox = some c → m ∈ c.queued → v.duty = some m) ∧
      ∀ p, a = .handling m p → v.duty = some m := by
  cases h with
  | offered =>
    refine ⟨fun c hc hm => ?_, nofun⟩
    cases hc
    rw [List.mem_singleton.1 hm]
  | handling =>
    refine ⟨fun c hc hm => ?_, fun p hp => ?_⟩
    · cases hc
      cases hm
    · cases hp
      rfl
  | @ended v a _ =>
    refine ⟨fun c hc hm => ?_, nofun⟩
    obtain ⟨c, -, rfl⟩ := Option.map_eq_some_iff.1 hc
    cases hm
  | forgotten hq =>
    refine ⟨fun c hc hm => ?_, nofun⟩
    cases hc
    rw [hq] at hm
    cases hm
  | _ =>
    refine ⟨fun c hc hm => ?_, nofun⟩
    cases hc
    cases hm

/-- The worker of a thread is served until the thread has ended. -/
lemma served (h : Fits P w v a) (ha : a ≠ .ended) : v.served = true := by
  cases h with
  | ended => exact absurd rfl ha
  | forgotten => exact absurd rfl ha
  | _ => rfl

/-! ### What a thread can do -/

/-- A thread that has not announced itself can do so. -/
lemma announce (h : Fits P w v .starting) :
    Fits P w { v with sent := v.sent ++ [w.greeting] } .listening := by
  cases h
  exact .greeted

/-- What a listening thread finds in its inbox is the request that was handed to it. -/
lemma take {c rest : Channel Multipart} (h : Fits P w v .listening) (hi : v.inbox = some c)
    (hc : c.receive = .item m rest) :
    Fits P w { v with inbox := some rest } (.handling m (w.answer m)) := by
  cases h with
  | offered he =>
    cases hi
    cases hc
    exact .handling he .refl
  | _ =>
    cases hi
    cases hc

/-- A thread can make a step in its answer. -/
lemma work {p : Procedure (Multipart × Worker)} {s : Shared} (h : Fits P w v (.handling m p))
    (hs : P s) : Fits P w v (.handling m (p.step s).1) := by
  cases h with
  | handling he hp => exact .handling he (.step hp hs)

/-- A thread that has found its answer can send it. -/
lemma reply (h : Fits P w v (.handling m (.done (r, w')))) :
    w'.id = w.id ∧ w'.handler.clear = w.handler.clear ∧ r.head? = some w.id.frame ∧
      Fits P w' { v with sent := v.sent ++ [r] } .listening := by
  cases h with
  | handling he hp =>
    obtain ⟨reply, rfl, ha, hid, hc⟩ := Worker.answer_done he hp
    refine ⟨hid, hc, rfl, ?_⟩
    rw [← hid]
    exact .replied he (Handler.answers_of_clear hc ha)

end Fits

/-! ### What a move changes -/

namespace Exchange

variable {e r : Exchange} {g : Ledger} {w u : WorkerId} {m : Multipart}

/-- A message of a worker is added to those that it has sent. -/
lemma view_tell_self (ho : e.backend.offer = .sent) (hm : m.head? = some w.frame) :
    (e.tell m).view g w = { e.view g w with sent := (e.view g w).sent ++ [m] } := by
  have hs : ((e.tell m).view g w).sent = (e.view g w).sent ++ [m] := by
    simp [view, tell, Channel.send, ho, hm]
  rw [← hs]
  rfl

/-- What another worker says does not change how a worker is seen. -/
lemma view_tell_of_ne (hm : m.head? ≠ some w.frame) : (e.tell m).view g w = e.view g w := by
  have hs : ((e.tell m).view g w).sent = (e.view g w).sent := by
    simp only [view, tell, Channel.send]
    split
    · simp [hm]
    · rfl
  change { e.view g w with sent := ((e.tell m).view g w).sent } = e.view g w
  rw [hs]

/-- Changing the inbox of a worker changes nothing else. -/
lemma view_updateInbox_self (f : Channel Multipart → Channel Multipart) :
    (e.updateInbox w f).view g w = { e.view g w with inbox := (e.view g w).inbox.map f } := by
  simp only [view, inbox?_updateInbox, if_true]
  rfl

/-- The inbox of another worker does not change how a worker is seen. -/
lemma view_updateInbox_of_ne (f : Channel Multipart → Channel Multipart) (h : u ≠ w) :
    (e.updateInbox w f).view g u = e.view g u := by
  simp only [view, inbox?_updateInbox, if_neg h]
  rfl

/-- Closing the way to the broker leaves what was sent. -/
lemma view_lose (e : Exchange) (g : Ledger) (w u : WorkerId) (last : Bool) :
    (e.lose w last).view g u = (e.updateInbox w Channel.closeReceiver).view g u := by
  cases last <;> rfl

end Exchange

end Wayfinding
