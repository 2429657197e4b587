import Wayfinding.Proofs.Answer.Counting
import Wayfinding.Proofs.Service.Pool

/-!
# One message for each message

Several workers at their desks, each with an inbox into which anybody may put anything. A worker
announces itself, and then sends exactly one message for each that it takes: the answer to a
request, or the announcement again. Between any two of its steps the others may do what they like.

Main definitions: `Workshop.Step`, `Workshop.Reachable`, `Worker.Replies`, `Worker.Transcript`.
Main statement: `Workshop.Reachable.one_for_each`.
-/

namespace Wayfinding

open Procedure (Leads)

/-! ### Single messages -/

namespace Worker

variable {P : Shared → Prop} {w w' : Worker} {m r : Multipart} {e : Envelope}

/-- A worker announces itself with its address and the letters of the word READY. -/
lemma greeting_eq (w : Worker) : w.greeting = [w.id.frame, [82, 69, 65, 68, 89]] := rfl

/-- What a worker may send for a message: for a request, which comes from the address of a client,
an answer for this client, and for anything else the announcement. -/
inductive Replies (P : Shared → Prop) (w : Worker) : Multipart → Multipart → Prop where
  | answer {client payload reply : Frame} :
    client ≠ [] →
    w.handler.Answers P payload reply →
    Replies P w [client, [], payload] [w.id.frame, client, [], reply]
  | announcement {m : Multipart} :
    (∀ client payload, client ≠ [] → m ≠ [client, [], payload]) →
    Replies P w m [w.id.frame, [82, 69, 65, 68, 89]]

/-- A worker after some work: it is the same but for what it knows about a request. -/
structure Follows (w' w : Worker) : Prop where
  id : w'.id = w.id
  clear : w'.handler.clear = w.handler.clear

/-- More work changes nothing else. -/
lemma Follows.trans {w'' : Worker} (h' : w''.Follows w') (h : w'.Follows w) : w''.Follows w :=
  ⟨h'.id.trans h.id, h'.clear.trans h.clear⟩

/-- What a worker replies does not depend on its earlier work. -/
lemma Replies.of_follows (h : w'.Replies P m r) (hw : w'.Follows w) : w.Replies P m r := by
  cases h with
  | answer hne ha =>
    rw [hw.id]
    exact .answer hne (Handler.answers_of_clear hw.clear.symm ha)
  | announcement hm =>
    rw [hw.id]
    exact .announcement hm

/-- What a worker comes to send for a message. -/
lemma replies_of_leads (h : (w.answer m).Leads P (.done (r, w'))) :
    w.Replies P m r ∧ w'.Follows w := by
  cases hparse : Envelope.parse m with
  | ok e =>
    obtain ⟨rfl, hne⟩ := Envelope.eq_frames_of_parse hparse
    obtain ⟨payload, rfl, ha, hid, hclear⟩ := answer_done hne h
    exact ⟨.answer hne ha, hid, hclear⟩
  | error reason =>
    simp only [answer, hparse] at h
    cases h.of_done
    refine ⟨.announcement ?_, rfl, rfl⟩
    rintro client payload hne rfl
    have hread := Envelope.parse_frames (e := ⟨client, payload⟩) hne
    cases hparse.symm.trans hread

/-- The answer to a request is read as a reply to its client, by every broker that knows the worker,
and never as an announcement. -/
lemma Replies.reply?_eq_some {client payload : Frame} (h : w.Replies P [client, [], payload] r)
    (hne : client ≠ []) {b : Broker} (hb : w.id ∈ b.workers) :
    r ≠ [w.id.frame, [82, 69, 65, 68, 89]] ∧
      ∃ reply, b.reply? r = some (w.id, ⟨client, reply⟩) := by
  cases h with
  | @answer _ _ reply _ _ =>
    refine ⟨?_, reply, Broker.reply?_frames (e := ⟨client, reply⟩) hb hne⟩
    simp
  | announcement hm => exact absurd rfl (hm client payload hne)

/-- The answer to a message is there at once, or begins with the step that counts the request. -/
lemma answer_cases (w : Worker) (m : Multipart) :
    (∃ x, w.answer m = .done x) ∨ ∃ p, w.answer m = .measure .requestStarted p ∧ p.Inside := by
  unfold answer
  split
  · next e _ =>
    obtain ⟨p, hp, hin⟩ := w.handler.exists_inside e.payload
    rw [hp]
    exact .inr ⟨_, rfl, hin.map _⟩
  · exact .inl ⟨_, rfl⟩

/-- The first step for a message gives the answer at once, or counts the request. -/
lemma answer_step {s : Shared} {p : Procedure (Multipart × Worker)} {s' : Shared}
    (h : (w.answer m).step s = (p, s')) :
    (p.Inside ∧ s'.journal.inFlight = s.journal.inFlight + 1) ∨
      (∃ x, p = .done x) ∧ s'.journal.inFlight = s.journal.inFlight := by
  rcases w.answer_cases m with ⟨x, hx⟩ | ⟨p', hp, hin⟩
  · rw [hx] at h
    cases h
    exact .inr ⟨⟨x, rfl⟩, rfl⟩
  · rw [hp] at h
    cases h
    exact .inl ⟨hin, (Journal.inFlight_cons ..).trans (Int.add_comm ..)⟩

/-- A worker that is not interrupted has one reply for each message. -/
lemma answers_run (w : Worker) (ms : List Multipart) (s : Shared) :
    ∃ rs s', (w.answers ms).run s = (.ok rs, s') ∧
      List.Forall₂ (w.Replies fun _ => True) ms rs := by
  induction ms generalizing w s with
  | nil => exact ⟨[], s, rfl, .nil⟩
  | cons m ms ih =>
    obtain ⟨⟨r, w'⟩, s₁, hfirst⟩ := w.answer_ends m s
    obtain ⟨hr, hw'⟩ := replies_of_leads (Procedure.leads_of_run hfirst)
    obtain ⟨rs, s₂, hrest, hrs⟩ := ih w' s₁
    refine ⟨r :: rs, s₂, ?_, .cons hr (hrs.imp fun _ _ h => h.of_follows hw')⟩
    show ((w.answer m).bind fun x => (x.2.answers ms).bind fun rs => .done (x.1 :: rs)).run s = _
    simp only [Procedure.run_bind, hfirst, hrest]
    rfl

/-- A worker that is not interrupted sends its announcement and one reply for each message. -/
lemma serve_run (w : Worker) (ms : List Multipart) (s : Shared) :
    ∃ rs s', (w.serve ms).run s = (.ok ([w.id.frame, [82, 69, 65, 68, 89]] :: rs), s') ∧
      List.Forall₂ (w.Replies fun _ => True) ms rs := by
  rw [← greeting_eq]
  obtain ⟨rs, s', hrun, hrs⟩ := w.answers_run ms s
  refine ⟨rs, s', ?_, hrs⟩
  show ((w.answers ms).bind fun rs => .done (w.greeting :: rs)).run s = _
  simp only [Procedure.run_bind, hrun]
  rfl

/-- What a worker has sent for what it has received: nothing, or its announcement and then one
message for each of those that it has received, except for what it still has in hand. -/
inductive Transcript (P : Shared → Prop) (w : Worker) :
    List Multipart → List Multipart → Option Multipart → Prop where
  | silent : Transcript P w [] [] none
  | greeted {ms rs} (inHand : Option Multipart) :
    List.Forall₂ (w.Replies P) ms rs →
    Transcript P w (ms ++ inHand.toList) ([w.id.frame, [82, 69, 65, 68, 89]] :: rs) inHand

end Worker

/-! ### Desks -/

/-- What a worker at a desk is doing. -/
inductive DeskStage where
  /-- It has not announced itself. -/
  | starting
  /-- It waits for a message in its inbox. -/
  | listening
  /-- It has taken a message. -/
  | holding (message : Multipart)
  /-- It has begun with the message, and a part of its procedure is left. -/
  | handling (message : Multipart) (rest : Procedure (Multipart × Worker))
  /-- It has stopped, perhaps because it could not send its answer to a message. -/
  | ended (unanswered : Option Multipart)

/-- A worker with what it has taken from its inbox and what it has sent. -/
structure Desk where
  worker : Worker
  stage : DeskStage := .starting
  received : List Multipart := []
  sent : List Multipart := []

namespace Desk

/-- The message that was taken and not yet answered. -/
def inHand (d : Desk) : Option Multipart :=
  match d.stage with
  | .starting | .listening => none
  | .holding m | .handling m _ => some m
  | .ended m => m

/-- Whether the worker is within the handling of a request. -/
def isInside (d : Desk) : Bool :=
  match d.stage with
  | .handling _ rest => rest.outcome?.isNone
  | _ => false

/-- A worker stops when it cannot send, or when nothing more comes. -/
def MayStop (d : Desk) : Prop :=
  d.stage = .starting ∨ d.stage = .listening ∨ ∃ m x, d.stage = .handling m (.done x)

end Desk

/-- Workers at their desks, and what they share. -/
structure Workshop where
  desks : List Desk
  shared : Shared

namespace Workshop

/-- Puts another desk at an index. -/
def setDesk (s : Workshop) (i : Nat) (d : Desk) : Workshop := { s with desks := s.desks.set i d }

/-- How many workers are within the handling of a request. -/
def inside (s : Workshop) : Nat := s.desks.countP Desk.isInside

/-- The steps of the workers, and what else may happen to what they share. -/
inductive Step (s : Workshop) : Workshop → Prop where
  | announce {i w} :
    s.desks[i]? = some ⟨w, .starting, [], []⟩ →
    Step s (s.setDesk i ⟨w, .listening, [], [w.greeting]⟩)
  | take {i w ms rs} (m : Multipart) :
    s.desks[i]? = some ⟨w, .listening, ms, rs⟩ →
    Step s (s.setDesk i ⟨w, .holding m, ms ++ [m], rs⟩)
  | begin {i w m ms rs} :
    s.desks[i]? = some ⟨w, .holding m, ms, rs⟩ →
    Step s { s.setDesk i ⟨w, .handling m ((w.answer m).step s.shared).1, ms, rs⟩ with
      shared := ((w.answer m).step s.shared).2 }
  | work {i w m p ms rs} :
    s.desks[i]? = some ⟨w, .handling m p, ms, rs⟩ →
    Step s { s.setDesk i ⟨w, .handling m (p.step s.shared).1, ms, rs⟩ with
      shared := (p.step s.shared).2 }
  | send {i w m r w' ms rs} :
    s.desks[i]? = some ⟨w, .handling m (.done (r, w')), ms, rs⟩ →
    Step s (s.setDesk i ⟨w', .listening, ms, rs ++ [r]⟩)
  | stop {i d} :
    s.desks[i]? = some d →
    d.MayStop →
    Step s (s.setDesk i { d with stage := .ended d.inHand })
  | others {shared} :
    shared.journal.inFlight = s.shared.journal.inFlight →
    Step s { s with shared := shared }

/-- The states of runs from the start of the workers. -/
inductive Reachable (workers : List Worker) (shared : Shared) : Workshop → Prop where
  | start :
    Reachable workers shared { desks := workers.map ({ worker := · }), shared := shared }
  | step {s s' : Workshop} :
    Reachable workers shared s →
    Step s s' →
    Reachable workers shared s'

/-- Some steps of a workshop. -/
abbrev Run : Workshop → Workshop → Prop := Relation.ReflTransGen Step

/-- What the workers find in what they share, in some run. -/
def Sees (workers : List Worker) (shared state : Shared) : Prop :=
  ∃ s, Reachable workers shared s ∧ s.shared = state

end Workshop

/-! ### What desks look like -/

namespace Desk

variable {P : Shared → Prop} {w : Worker} {d : Desk}

/-- The desks at which a worker may be found. -/
inductive Fits (P : Shared → Prop) (w : Worker) : Desk → Prop where
  | starting :
    Fits P w ⟨w, .starting, [], []⟩
  | listening {v ms rs} :
    v.Follows w →
    List.Forall₂ (w.Replies P) ms rs →
    Fits P w ⟨v, .listening, ms, w.greeting :: rs⟩
  | holding {v m ms rs} :
    v.Follows w →
    List.Forall₂ (w.Replies P) ms rs →
    Fits P w ⟨v, .holding m, ms ++ [m], w.greeting :: rs⟩
  | handling {v m p ms rs} :
    v.Follows w →
    List.Forall₂ (w.Replies P) ms rs →
    (v.answer m).Leads P p →
    p.Inside ∨ (∃ x, p = .done x) →
    Fits P w ⟨v, .handling m p, ms ++ [m], w.greeting :: rs⟩
  | ended {v u ms rs} :
    w.Transcript P ms rs u →
    Fits P w ⟨v, .ended u, ms, rs⟩

/-- A desk shows what its worker has received and sent. -/
lemma Fits.transcript (h : Fits P w d) : w.Transcript P d.received d.sent d.inHand := by
  cases h with
  | starting => exact .silent
  | @listening v ms rs _ hrs =>
    have ht : w.Transcript P (ms ++ []) (w.greeting :: rs) none := .greeted none hrs
    rwa [List.append_nil] at ht
  | @holding v m ms rs _ hrs => exact .greeted (some m) hrs
  | @handling v m p ms rs _ hrs => exact .greeted (some m) hrs
  | ended ht => exact ht

/-- A worker does not stop within the handling of a request. -/
lemma MayStop.isInside (h : d.MayStop) : d.isInside = false := by
  unfold Desk.isInside
  rcases h with h | h | ⟨m, x, h⟩ <;> rw [h]
  rfl

/-- A worker that has begun with a message is within the handling of a request until it has its
answer. -/
lemma isInside_of_inside {v : Worker} {m : Multipart} {p : Procedure (Multipart × Worker)}
    {ms rs : List Multipart} (hp : p.Inside) : isInside ⟨v, .handling m p, ms, rs⟩ = true := by
  simp [isInside, hp.outcome?_eq_none]

end Desk

namespace Workshop

variable {P : Shared → Prop} {workers : List Worker} {shared : Shared} {s s' : Workshop}
  {d d' : Desk} {i : Nat}

/-- What holds of a workshop in every state of a run. -/
structure Inv (P : Shared → Prop) (workers : List Worker) (s : Workshop) : Prop where
  fits : ∀ (i : Nat) (d : Desk), s.desks[i]? = some d → ∃ w, workers[i]? = some w ∧ d.Fits P w
  counted : s.shared.journal.inFlight = s.inside

/-- One desk changes, and the count with it. -/
lemma Inv.set (h : s.Inv P workers) {w : Worker} (hi : s.desks[i]? = some d)
    (hw : workers[i]? = some w) (hd : d'.Fits P w) {shared' : Shared}
    (hj : shared'.journal.inFlight + d.isInside.toNat =
      s.shared.journal.inFlight + d'.isInside.toNat) :
    Inv P workers { s.setDesk i d' with shared := shared' } where
  fits j e he := by
    rcases of_getElem?_set he with ⟨rfl, rfl⟩ | he
    · exact ⟨w, hw, hd⟩
    · exact h.fits j e he
  counted := by
    have hin : (s.setDesk i d').inside + d.isInside.toNat = s.inside + d'.isInside.toNat :=
      countP_set_add Desk.isInside hi d'
    have hc := h.counted
    show shared'.journal.inFlight = ((s.setDesk i d').inside : Int)
    omega

/-- Every step keeps the workshop in order. -/
lemma Step.inv (st : s.Step s') (h : s.Inv P workers) (hs : P s.shared) : s'.Inv P workers := by
  cases st with
  | @announce i v hi =>
    obtain ⟨w, hw, hd⟩ := h.fits i _ hi
    cases hd
    exact h.set hi hw (.listening ⟨rfl, rfl⟩ .nil) rfl
  | @take i v ms rs m hi =>
    obtain ⟨w, hw, hd⟩ := h.fits i _ hi
    cases hd with
    | listening hv hrs => exact h.set hi hw (.holding hv hrs) rfl
  | @begin i v m ms rs hi =>
    obtain ⟨w, hw, hd⟩ := h.fits i _ hi
    cases hd with
    | holding hv hrs =>
      have hl := Leads.step (.refl (p := v.answer m)) hs
      rcases Worker.answer_step (Prod.eta _).symm with ⟨hin, hj⟩ | ⟨hdone, hj⟩
      · refine h.set hi hw (.handling hv hrs hl (.inl hin)) ?_
        rw [Desk.isInside_of_inside hin, hj]
        show s.shared.journal.inFlight + 1 + 0 = s.shared.journal.inFlight + 1
        omega
      · refine h.set hi hw (.handling hv hrs hl (.inr hdone)) ?_
        obtain ⟨x, hx⟩ := hdone
        rw [hx, hj]
        rfl
  | @work i v m p ms rs hi =>
    obtain ⟨w, hw, hd⟩ := h.fits i _ hi
    cases hd with
    | handling hv hrs hl hp =>
      have hl' := hl.step hs
      rcases hp with hin | ⟨x, rfl⟩
      · rcases hin.step s.shared with ⟨hin', hj⟩ | ⟨x, hx, hj⟩
        · refine h.set hi hw (.handling hv hrs hl' (.inl hin')) ?_
          rw [Desk.isInside_of_inside hin, Desk.isInside_of_inside hin', hj]
        · refine h.set hi hw (.handling hv hrs hl' (.inr ⟨x, hx⟩)) ?_
          rw [Desk.isInside_of_inside hin, hx, hj]
          show s.shared.journal.inFlight - 1 + 1 = s.shared.journal.inFlight + 0
          omega
      · -- an answer that is there changes nothing any more
        exact h.set hi hw (.handling hv hrs hl' (.inr ⟨x, rfl⟩)) rfl
  | @send i v m r v' ms rs hi =>
    obtain ⟨w, hw, hd⟩ := h.fits i _ hi
    cases hd with
    | handling hv hrs hl =>
      obtain ⟨hr, hv'⟩ := Worker.replies_of_leads hl
      have hall := List.rel_append hrs (.cons (hr.of_follows hv) .nil)
      exact h.set hi hw (.listening (hv'.trans hv) hall) rfl
  | @stop i d hi hd =>
    obtain ⟨w, hw, hf⟩ := h.fits i _ hi
    refine h.set hi hw (.ended hf.transcript) ?_
    rw [hd.isInside]
    rfl
  | others hj => exact ⟨h.fits, hj.trans h.counted⟩

/-- In every run in which nothing is counted at the start, the workshop is in order. -/
lemma Reachable.inv (h : Reachable workers shared s) (h₀ : shared.journal.inFlight = 0) :
    s.Inv (Sees workers shared) workers := by
  induction h with
  | start =>
    refine ⟨fun i d hi => ?_, ?_⟩
    · rw [List.getElem?_map, Option.map_eq_some_iff] at hi
      obtain ⟨w, hw, rfl⟩ := hi
      exact ⟨w, hw, .starting⟩
    · have hnobody : (workers.map fun w => ({ worker := w } : Desk)).countP Desk.isInside = 0 := by
        rw [List.countP_eq_zero]
        intro d hd
        obtain ⟨w, -, rfl⟩ := List.mem_map.1 hd
        exact Bool.false_ne_true
      show shared.journal.inFlight = (List.countP _ _ : Nat)
      rw [h₀, hnobody]
      rfl
  | step hr st ih => exact st.inv ih ⟨_, hr, rfl⟩

/-- One worker may go on while the others rest. -/
lemma run_of_steps {v : Worker} {m : Multipart} {p p' : Procedure (Multipart × Worker)}
    {ms rs : List Multipart} {shared' : Shared}
    (hi : s.desks[i]? = some ⟨v, .handling m p, ms, rs⟩)
    (hsteps : Procedure.Steps (p, s.shared) (p', shared')) :
    Run s { s.setDesk i ⟨v, .handling m p', ms, rs⟩ with shared := shared' } := by
  obtain ⟨hlt, hdesk⟩ := List.getElem?_eq_some_iff.1 hi
  let after (x : Procedure (Multipart × Worker) × Shared) : Workshop :=
    { s.setDesk i ⟨v, .handling m x.1, ms, rs⟩ with shared := x.2 }
  have hstart : after (p, s.shared) = s := by
    change s.setDesk i ⟨v, .handling m p, ms, rs⟩ = s
    rw [setDesk, ← hdesk, List.set_getElem_self]
  have hrun : Run (after (p, s.shared)) (after (p', shared')) := by
    refine hsteps.lift after fun x y hxy => ?_
    subst hxy
    have hx : (after x).desks[i]? = some ⟨v, .handling m x.1, ms, rs⟩ :=
      List.getElem?_set_self hlt
    have hstep := Step.work hx
    simp only [after, setDesk, List.set_set] at hstep ⊢
    exact hstep
  rw [hstart] at hrun
  exact hrun

/-- A worker that has its answer may send it. -/
lemma exists_send_of_run {v v' : Worker} {m r : Multipart} {p : Procedure (Multipart × Worker)}
    {ms rs : List Multipart} {shared' : Shared}
    (hi : s.desks[i]? = some ⟨v, .handling m p, ms, rs⟩)
    (hrun : p.run s.shared = (.ok (r, v'), shared')) :
    ∃ s', Run s s' ∧ s'.desks[i]? = some ⟨v', .listening, ms, rs ++ [r]⟩ := by
  obtain ⟨hlt, -⟩ := List.getElem?_eq_some_iff.1 hi
  have hwork := run_of_steps hi (Procedure.steps_of_run hrun)
  refine ⟨_, hwork.tail (.send (List.getElem?_set_self hlt)), List.getElem?_set_self ?_⟩
  rwa [setDesk, List.length_set]

/-- What a worker has taken it may answer. -/
lemma Inv.exists_send (h : s.Inv P workers) (hi : s.desks[i]? = some d)
    (hd : (∃ m, d.stage = .holding m) ∨ ∃ m p, d.stage = .handling m p) :
    ∃ s' v r, Run s s' ∧ s'.desks[i]? = some ⟨v, .listening, d.received, d.sent ++ [r]⟩ := by
  obtain ⟨w, -, hf⟩ := h.fits i d hi
  cases hf with
  | @holding v m ms rs =>
    obtain ⟨⟨r, v'⟩, shared', hrun⟩ := v.answer_ends m s.shared
    rw [← Procedure.run_step] at hrun
    obtain ⟨hlt, -⟩ := List.getElem?_eq_some_iff.1 hi
    obtain ⟨s', hs', hdesk⟩ :=
      exists_send_of_run (s := ⟨_, _⟩) (List.getElem?_set_self hlt) hrun
    exact ⟨s', v', r, .head (.begin hi) hs', hdesk⟩
  | @handling v m p ms rs _ _ _ hp =>
    have hends : p.Ends := by
      rcases hp with hin | ⟨x, rfl⟩
      · exact hin.ends
      · exact .done x
    obtain ⟨⟨r, v'⟩, shared', hrun⟩ := hends s.shared
    obtain ⟨s', hs', hdesk⟩ := exists_send_of_run hi hrun
    exact ⟨s', v', r, hs', hdesk⟩
  | _ =>
    rcases hd with ⟨m, hd⟩ | ⟨m, p, hd⟩ <;> cases hd

/-- Whatever workers find in their inboxes and whatever their engines do, in every interleaving:
each worker sends its announcement and then one message for each that it has received, in this
order; no broker takes the answer to a request for an announcement; the number of requests that are
counted is the number of workers that are within the handling of one; and a worker that has taken a
message can always be brought to the message that it sends for it, in particular when nobody
interrupts it. -/
theorem Reachable.one_for_each (h : Reachable workers shared s)
    (h₀ : shared.journal.inFlight = 0) :
    (∀ (i : Nat) (d : Desk), s.desks[i]? = some d → ∃ w, workers[i]? = some w ∧
      w.Transcript (Sees workers shared) d.received d.sent d.inHand) ∧
    (∀ w ∈ workers, ∀ client payload r, client ≠ [] →
      w.Replies (Sees workers shared) [client, [], payload] r → ∀ b : Broker, w.id ∈ b.workers →
        r ≠ [w.id.frame, [82, 69, 65, 68, 89]] ∧
          ∃ reply, b.reply? r = some (w.id, ⟨client, reply⟩)) ∧
    s.shared.journal.inFlight = s.inside ∧
    (∀ (i : Nat) (d : Desk), s.desks[i]? = some d →
      (∃ m, d.stage = .holding m) ∨ (∃ m p, d.stage = .handling m p) →
        ∃ s' v r, Run s s' ∧ s'.desks[i]? = some ⟨v, .listening, d.received, d.sent ++ [r]⟩) ∧
    ∀ w ∈ workers, ∀ ms state, ∃ rs state', (w.serve ms).run state =
      (.ok ([w.id.frame, [82, 69, 65, 68, 89]] :: rs), state') ∧
        List.Forall₂ (w.Replies fun _ => True) ms rs := by
  have hinv := h.inv h₀
  refine ⟨fun i d hi => ?_, ?_, hinv.counted, fun i d hi hd => hinv.exists_send hi hd,
    fun w _ ms state => w.serve_run ms state⟩
  · obtain ⟨w, hw, hf⟩ := hinv.fits i d hi
    exact ⟨w, hw, hf.transcript⟩
  · intro w _ client payload r hne hr b hb
    exact hr.reply?_eq_some hne hb

/-- Of two workers, one is given something that is no request, and announces itself again; the other
is still handling a request. -/
theorem one_for_each_pair : ∃ s : Workshop,
    Reachable [.idler, ⟨⟨[8]⟩, Worker.idler.handler⟩] ⟨.ofCapacities fun _ => 1, [], []⟩ s ∧
      s.desks.map (·.received) = [[[[9]]], [[[1], [], []]]] ∧
      s.desks.map (·.sent) = [[[[7], [82, 69, 65, 68, 89]], [[7], [82, 69, 65, 68, 89]]],
        [[[8], [82, 69, 65, 68, 89]]]] ∧
      s.inside = 1 ∧ s.shared.journal.inFlight = s.inside := by
  have started : Reachable [.idler, ⟨⟨[8]⟩, Worker.idler.handler⟩]
      ⟨.ofCapacities fun _ => 1, [], []⟩ _ := .start
  have announced := started.step (.announce (i := 0) rfl) |>.step (.announce (i := 1) rfl)
  have taken := announced.step (.take (i := 0) [[9]] rfl)
    |>.step (.take (i := 1) [[1], [], []] rfl)
  have begun := taken.step (.begin (i := 1) rfl) |>.step (.begin (i := 0) rfl)
  have sent := begun.step (.send (i := 0) rfl)
  exact ⟨_, sent, rfl, rfl, by decide +kernel, (sent.one_for_each rfl).2.2.1⟩

end Workshop

end Wayfinding
