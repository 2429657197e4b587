import Mathlib.Data.List.Perm.Subperm
import Wayfinding.Proofs.Service.Mail

/-!
# Replies reach those who asked

Whatever connections, workers and the broker do, and in whatever order, what is put into the mailbox
of a client is the reply to a request that this client has passed on, and each request has at most
one reply. A client that has left gets nothing any more, and neither does one that came later in its
place.

Main definitions: `Hub.Inv`, `Hub.Rightful`.
Main statement: `Hub.Reachable.rightful`.
-/

namespace Wayfinding

/-- What the broker takes from clients is what was first in the frontend. -/
lemma BrokerLoop.Step.taken {l l' : BrokerLoop} (st : l.Step l')
    (hf : ∀ m ∈ l.exchange.frontend.queued, ∃ e, Envelope.parse m = .ok e) :
    l'.ledger.taken.map Envelope.frames ++ l'.exchange.frontend.queued =
      l.ledger.taken.map Envelope.frames ++ l.exchange.frontend.queued := by
  cases st with
  | @attend e _ g _ ho he =>
    cases ho with
    | @worker m rest hr =>
      obtain ⟨ht, -⟩ := g.attend_worker { e with backend := rest } m
      have hq : (Exchange.receiveWorker { e with backend := rest } m).frontend = e.frontend := by
        simp only [Exchange.receiveWorker, Exchange.deliver]
        split <;> rfl
      rw [ht, Exchange.attend, hq]
    | @client m rest _ hr =>
      obtain ⟨hq, -⟩ := Channel.receive_eq_item hr
      obtain ⟨env, henv⟩ := hf m (by simp [hq])
      obtain ⟨rfl, -⟩ := Envelope.eq_frames_of_parse henv
      simp [Ledger.attend, Ledger.take, henv, Exchange.attend, Exchange.receiveClient, hq]
    | _ => simp [Exchange.Event.loopEnd?] at he
  | finish ho he =>
    cases ho with
    | client => simp [Exchange.Event.loopEnd?] at he
    | _ => rfl
  | round => simp [Ledger.hand]
  | lastRound => simp [Ledger.hand]
  | _ => rfl

/-- No worker changes what clients have sent. -/
lemma Pool.Step.taken {s s' : Pool} (st : s.Step s')
    (hf : ∀ m ∈ s.exchange.frontend.queued, ∃ e, Envelope.parse m = .ok e) :
    s'.ledger.taken.map Envelope.frames ++ s'.exchange.frontend.queued =
      s.ledger.taken.map Envelope.frames ++ s.exchange.frontend.queued := by
  cases st with
  | broker hl => exact hl.taken hf
  | _ => rfl

/-- Whatever a step of the pool delivers is put into the mailbox of a connected client. -/
lemma Pool.Step.delivers {s s' : Pool} (st : s.Step s') (c : ClientId) :
    s'.exchange.registry.connected = s.exchange.registry.connected ∧
    ∃ ms, mailOf c s'.ledger.delivered = mailOf c s.ledger.delivered ++ ms ∧
      s'.exchange.registry.mailbox? c = (s.exchange.registry.mailbox? c).map (· ++ ms) ∧
      (c ∉ s.exchange.registry.connected → ms = []) := by
  have hnothing : (s.exchange.registry.mailbox? c).map (· ++ ([] : List Multipart)) =
      s.exchange.registry.mailbox? c := by simp
  cases st with
  | broker hl => exact hl.delivers c
  | _ => exact ⟨rfl, [], (List.append_nil _).symm, hnothing.symm, fun _ => rfl⟩

namespace Hub

variable {workers : List Worker} {maxPending : Nat} {shared : Shared} {capacity : Option Nat}
  {frameLimit : Nat} {s s' : Hub}

/-- A request as it was passed on. -/
def request (f : ClientId × Frame) : Multipart := Envelope.frames ⟨f.1.frame, f.2⟩

/-- Requests are told apart by client and payload. -/
lemma request_injective : Function.Injective request := by
  rintro ⟨c, p⟩ ⟨c', p'⟩ h
  have he := Envelope.frames_injective h
  simp only [Envelope.mk.injEq] at he
  rw [ClientId.frame_injective he.1, he.2]

/-- What holds of a hub in every state of a run. -/
structure Inv (s : Hub) : Prop where
  numbered : Numbered s.links s.nextClient
  passed : s.forwarded.map request =
    s.ledger.taken.map Envelope.frames ++ s.exchange.frontend.queued
  mailed : Mailed s.links s.exchange.registry s.ledger.delivered s.collected

/-- Whatever waits in the frontend is a request. -/
lemma Inv.parse_queued (h : s.Inv) :
    ∀ m ∈ s.exchange.frontend.queued, ∃ e, Envelope.parse m = .ok e := by
  intro m hm
  have hmem : m ∈ s.forwarded.map request := by
    rw [h.passed]
    exact List.mem_append_right _ hm
  obtain ⟨f, -, rfl⟩ := List.mem_map.1 hmem
  exact ⟨_, Envelope.parse_frames f.1.frame_ne_nil⟩

/-- Every step keeps the hub in order, as long as the numbers of connections suffice. -/
lemma Step.inv (st : s.Step s') (h : s.Inv) (hl : s.links.length < UInt64.size) : s'.Inv := by
  have hn := h.numbered.nodup hl
  have hnum := st.numbered h.numbered
  -- only the pool delivers, and only one connection changes in each other step
  cases st with
  | inside hp =>
    refine ⟨hnum, ?_, ?_⟩
    · rw [h.passed]
      exact (hp.taken h.parse_queued).symm
    · exact h.mailed.deliver (hp.delivers ⟨0⟩).1 fun c => (hp.delivers c).2
  | @operate e ho =>
    obtain ⟨-, hr, hq⟩ := ho
    refine ⟨hnum, ?_, ?_⟩
    · exact h.passed.trans (congrArg (s.ledger.taken.map Envelope.frames ++ ·) hq.symm)
    · change Mailed s.links e.registry s.ledger.delivered s.collected
      exact hr ▸ h.mailed
  | connect => exact ⟨hnum, h.passed, h.mailed.connect⟩
  | register hi hs =>
    exact ⟨hnum, h.passed, h.mailed.register hn hi hs rfl (.inl rfl)⟩
  | @read i l bytes payloads kept hi hs hr =>
    have hc : (kept.getD l.connection).client = l.client := Connection.client_getD_takeBytes hr
    refine ⟨hnum, h.passed, h.mailed.keep hi hc ?_⟩
    cases kept with
    | none => exact .inr rfl
    | some c => exact .inl rfl
  | @pass i l payload rest hi hs ho hsent =>
    refine ⟨hnum, ?_, h.mailed.keep hi rfl hs⟩
    have hq : (s.exchange.frontend.send (l.connection.addressed payload)).queued =
        s.exchange.frontend.queued ++ [request (l.client, payload)] := by
      simp only [Channel.send, hsent]
      rfl
    change (s.forwarded ++ [(l.client, payload)]).map request =
      s.ledger.taken.map Envelope.frames ++ (s.exchange.frontend.send _).queued
    rw [hq, List.map_append, h.passed, List.append_assoc]
    rfl
  | @write i l m rest hi hs hm =>
    have hc : ((l.connection.takeReply m).2.getD l.connection).client = l.client :=
      Connection.client_getD_takeReply ..
    refine ⟨hnum, h.passed, h.mailed.collect hi hm hc ?_⟩
    dsimp only
    split
    · exact .inl rfl
    · exact .inr rfl
  | quit hi hs => exact ⟨hnum, h.passed, h.mailed.keep hi rfl (.inr rfl)⟩
  | leave hi hs =>
    exact ⟨hnum, h.passed, h.mailed.leave hi rfl fun hc => by cases hc⟩
  | hangUp hi hs =>
    refine ⟨hnum, h.passed,
      h.mailed.hangUp hn hi ?_ rfl fun hc => by cases hc⟩
    rw [hs]
    rintro (hr | hr) <;> cases hr

/-- Connections are never forgotten. -/
lemma Step.length_links_le (st : s.Step s') : s.links.length ≤ s'.links.length := by
  cases st with
  | connect => simp
  | inside => exact le_rfl
  | operate => exact le_rfl
  | _ => exact (List.length_set ..).ge

/-- The hub is in order in every run with fewer than 2⁶⁴ connections. -/
lemma Reachable.inv (h : Reachable workers maxPending shared capacity frameLimit s)
    (hl : s.links.length < UInt64.size) : s.Inv := by
  induction h with
  | start => exact ⟨⟨rfl, rfl⟩, rfl, ⟨nofun, nofun, fun _ _ => ⟨rfl, rfl⟩⟩⟩
  | step _ st ih =>
    have hlt := st.length_links_le.trans_lt hl
    exact st.inv (ih hlt) hlt

end Hub

/-- A reply to a request of a client. -/
structure Reply where
  client : ClientId
  payload : Frame
  reply : List UInt8
deriving Inhabited

namespace Hub

/-- Nobody gets a reply that is not for them. -/
structure Rightful (P : Shared → Prop) (workers : List Worker) (s : Hub) : Prop where
  /-- No two connections have the same client. -/
  distinct : (s.links.map Link.client).Nodup
  /-- What was put into mailboxes are replies of the workers behind an empty frame, each to another
  request that the client of the mailbox has passed on. -/
  replies : ∃ rs : List Reply,
    s.ledger.delivered = rs.map (fun r => (r.client, [[], r.reply])) ∧
      (rs.map fun r => (r.client, r.payload)).Subperm s.forwarded ∧
      ∀ r ∈ rs, ∃ w ∈ workers, w.handler.Answers P r.payload r.reply
  /-- In the mailbox of a client is what was put there and has not been taken. -/
  mailbox : ∀ c box, s.exchange.registry.mailbox? c = some box →
    mailOf c s.collected ++ box = mailOf c s.ledger.delivered
  /-- Nothing is put into the mailbox of a client that is not registered, in particular not after it
  has left. -/
  dropped : ∀ s', s.Step s' → ∀ l ∈ s.links, ¬ l.stage.Registered →
    mailOf l.client s'.ledger.delivered = mailOf l.client s.ledger.delivered

variable {workers : List Worker} {maxPending : Nat} {shared : Shared} {capacity : Option Nat}
  {frameLimit : Nat} {s s' : Hub} {P : Shared → Prop}

/-- The answers that a worker has given are to requests that were passed on. -/
lemma Inv.subperm_forwarded (h : s.Inv) (hk : s.pool.loop.Kept)
    (ha : Pool.Accounted P workers s.ledger) {as : List Answer}
    (hs : as.Sublist s.ledger.answered) :
    (as.map fun a => a.handOff.request).Subperm (s.forwarded.map request) := by
  have hhanded : (s.ledger.handed.map Broker.HandOff.request).Sublist
      (s.forwarded.map request) := by
    rw [h.passed, hk.order, List.append_assoc]
    exact List.sublist_append_left ..
  have hanswered : (as.map (·.handOff)).Sublist
      (s.ledger.answered.map (·.handOff) ++ s.ledger.outstanding) :=
    (hs.map _).trans (List.sublist_append_left ..)
  have hreq := (hanswered.map Broker.HandOff.request).subperm.trans
    ((ha.settled.map Broker.HandOff.request).symm.subperm.trans hhanded.subperm)
  rwa [List.map_map] at hreq

/-- What is delivered for an answer is for the client that has passed the request on. -/
lemma exists_reply {a : Answer} (hv : a.Valid P workers)
    (hf : a.handOff.request ∈ s.forwarded.map request) :
    ∃ r : Reply, request (r.client, r.payload) = a.handOff.request ∧
      Broker.delivery? a.reply = some (r.client, [[], r.reply]) ∧
      ∃ w ∈ workers, w.handler.Answers P r.payload r.reply := by
  obtain ⟨e, reply, hreq, hrep, hw⟩ := hv
  obtain ⟨⟨c, payload⟩, -, hc⟩ := List.mem_map.1 hf
  obtain rfl : e = ⟨c.frame, payload⟩ := Envelope.frames_injective (hreq.symm.trans hc.symm)
  have hdelivery : Broker.delivery? a.reply = some (c, [[], reply]) := by
    simp [hrep, Broker.delivery?, ClientMessage.frames]
  exact ⟨⟨c, payload, reply⟩, hreq.symm, hdelivery, hw⟩

/-- In every run with fewer than 2⁶⁴ connections, nobody gets a reply that is not for them. -/
theorem Reachable.rightful (h : Reachable workers maxPending shared capacity frameLimit s)
    (hn : (workers.map (·.id)).Nodup) (hl : s.links.length < UInt64.size) :
    s.Rightful (Pool.Sees workers maxPending shared) workers := by
  have hi := h.inv hl
  have hnd := hi.numbered.nodup hl
  obtain ⟨-, hacc⟩ := h.pool.accounted hn
  obtain ⟨as, hsub, hdel⟩ := hacc.delivered
  have hperm := hi.subperm_forwarded (h.pool.manned hn).kept hacc hsub
  have hex : ∀ a ∈ as, ∃ r : Reply, request (r.client, r.payload) = a.handOff.request ∧
      Broker.delivery? a.reply = some (r.client, [[], r.reply]) ∧
      ∃ w ∈ workers, w.handler.Answers (Pool.Sees workers maxPending shared) r.payload r.reply :=
    fun a ha => exists_reply (hacc.valid a (hsub.subset ha))
      (hperm.subset (List.mem_map_of_mem ha))
  -- the replies are those of the answers, in the order in which they were delivered
  choose! reply hreq hdelivery hw using hex
  refine ⟨hnd, ⟨as.map reply, ?_, ?_, ?_⟩, hi.mailed.mailbox, fun s' st l hl₀ hs => ?_⟩
  · have hsome : s.ledger.delivered.map some =
        ((as.map reply).map fun r => (r.client, [[], r.reply])).map some := by
      rw [hdel, List.map_map, List.map_map]
      exact List.map_congr_left hdelivery
    exact List.map_injective_iff.2 (fun _ _ => Option.some.inj) hsome
  · rw [← List.map_subperm_map_iff request_injective, List.map_map, List.map_map]
    have hsame : as.map (request ∘ (fun r => (r.client, r.payload)) ∘ reply) =
        as.map fun a => a.handOff.request := List.map_congr_left hreq
    exact hsame ▸ hperm
  · intro r hr
    obtain ⟨a, ha, rfl⟩ := List.mem_map.1 hr
    exact hw a ha
  · cases st with
    | inside hp =>
      obtain ⟨-, ms, hms, -, hnone⟩ := hp.delivers l.client
      have hnot := hi.mailed.notMem_of_not_registered hnd hl₀ hs
      exact hms.trans (by rw [hnone hnot, List.append_nil])
    | _ => rfl

/-- Two steps lead a worker to its reply when all it does is to count the request. -/
lemma answer_two_steps {w : Worker} {payload : Frame} {reply : List UInt8} {h : Handler}
    (hp : w.handler.handlePayload payload =
      .measure .requestStarted (.measure .requestFinished (.done (reply, h))))
    (c : ClientId) (s₁ s₂ : Shared) :
    (((w.answer (request (c, payload))).step s₁).1.step s₂).1 =
      .done (w.id.frame :: request (c, reply), { w with handler := h }) := by
  have hparse := Envelope.parse_frames (e := ⟨c.frame, payload⟩) c.frame_ne_nil
  simp only [request, Worker.answer, hparse, hp]
  rfl

/-- What a worker without engine replies to bytes that are no request. -/
lemma idler_answer (s₁ s₂ : Shared) :
    (((Worker.idler.answer (request (⟨1⟩, [255]))).step s₁).1.step s₂).1 =
      .done (Worker.idler.id.frame :: request (⟨1⟩, Handler.unreadable.encode), .idler) := by
  have hdecode : Request.decode? [255] = none := by
    rw [← Option.isNone_iff_eq_none]
    decide +kernel
  refine answer_two_steps ?_ ⟨1⟩ s₁ s₂
  simp only [Handler.handlePayload, Handler.respond, hdecode]
  rfl

/-- A client connects, sends bytes that are no request, and finds the reply in its mailbox. -/
theorem rightful_after_reply : ∃ s : Hub,
    Reachable [.idler] 1 ⟨.ofCapacities fun _ => 1, [], []⟩ none 8 s ∧
      s.ledger.delivered = [(⟨1⟩, [[], Handler.unreadable.encode])] ∧
      s.Rightful (Pool.Sees [.idler] 1 ⟨.ofCapacities fun _ => 1, [], []⟩) [.idler] := by
  have started : Reachable [.idler] 1 ⟨.ofCapacities fun _ => 1, [], []⟩ none 8 _ := .start
  have connected := started.step .connect |>.step (.register (i := 0) rfl rfl)
  have read := connected.step (.read (i := 0) rfl rfl
    (show Connection.takeBytes { client := ⟨1⟩, frameLimit := 8 }
        [0, 0, 0, 2, 0, 0, 0, 0, 0, 0, 0, 1, 255] =
      ([[255]].map (Connection.addressed { client := ⟨1⟩, frameLimit := 8 }),
        some { client := ⟨1⟩, frameLimit := 8 }) by decide +kernel))
  have passed := read.step (.pass (i := 0) rfl (.inl rfl) rfl rfl)
  have announced := passed.step (.inside (.announce (i := 0) rfl))
  have heard := announced.step (.inside (.broker (.attend (.worker rfl) rfl)))
  have rested := heard.step (.inside (.broker (.rest (.inl rfl))))
  have taken := rested.step (.inside (.broker (.attend (.client (by decide) rfl) rfl)))
  have handed := taken.step (.inside (.broker (.round (.hand rfl rfl (by decide) (by decide)) rfl)))
  have waiting := handed.step (.inside (.broker (.rest (.inl rfl))))
  have begun := waiting.step (.inside (.take (i := 0) rfl rfl rfl))
  have counted := begun.step (.inside (.work (i := 0) rfl))
  have finished := counted.step (.inside (.work (i := 0) rfl))
  have replied := finished.step (.inside (.reply (i := 0)
    (congrArg (fun p => some (Thread.mk .idler (.handling (request (⟨1⟩, [255])) p)))
      (idler_answer _ _))))
  have delivered := replied.step (.inside (.broker (.attend (.worker rfl) rfl)))
  exact ⟨_, delivered, rfl, delivered.rightful (by decide) (by decide)⟩

end Hub

end Wayfinding
