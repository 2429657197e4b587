import Wayfinding.Proofs.Service.Manned

/-!
# Requests and their replies

The requests that were handed to workers are those to which a reply has been taken and those that
are outstanding. Each reply is what a worker of the pool answers to the request, and goes to the
client of the request.

Main definition: `Pool.Accounted`.
Main statement: `Pool.Reachable.accounted`.
-/

namespace Wayfinding

namespace Ledger

variable {g : Ledger} {o : Broker.HandOff} {os : List Broker.HandOff} {reply : Envelope}

/-- Among requests for different workers, one is singled out by its worker. -/
lemma perm_filter_worker (hn : (os.map (·.worker)).Nodup) (ho : o ∈ os) :
    os.Perm (o :: os.filter fun o' => o'.worker ≠ o.worker) := by
  induction os with
  | nil => cases ho
  | cons a os ih =>
    obtain ⟨ha, hos⟩ := List.nodup_cons.1 hn
    have hne : ∀ o' ∈ os, o'.worker ≠ a.worker := fun o' ho' he =>
      ha (List.mem_map.2 ⟨o', ho', he⟩)
    obtain rfl | ho := List.mem_cons.1 ho
    · have hself : os.filter (fun o' => o'.worker ≠ o.worker) = os :=
        List.filter_eq_self.2 fun o' ho' => decide_eq_true (hne o' ho')
      rw [List.filter_cons_of_neg (by simp), hself]
    · rw [List.filter_cons_of_pos (by simpa using (hne o ho).symm)]
      exact ((ih hos ho).cons a).trans (.swap o a _)

/-- An answer settles the request that its worker has. -/
lemma settle_of_duty {w : WorkerId} {m : Multipart} (h : g.duty w = some m) :
    g.settle w reply =
      { g with
        outstanding := g.outstanding.filter fun o => o.worker ≠ w
        answered := g.answered ++ [⟨⟨w, m⟩, reply⟩] } := by
  obtain ⟨o, ho, rfl⟩ := Option.map_eq_some_iff.1 h
  obtain rfl : o.worker = w := by simpa using List.find?_some ho
  simp only [settle, ho]

/-- The reply to a request is put into a mailbox or dropped. -/
lemma delivered_deliver (g : Ledger) (r : Registry) (reply : Envelope) :
    (g.deliver r reply).delivered = g.delivered ∨
      ∃ d, Broker.delivery? reply = some d ∧
        (g.deliver r reply).delivered = g.delivered ++ [d] := by
  unfold deliver
  cases hd : Broker.delivery? reply with
  | none => exact .inl rfl
  | some d =>
    by_cases hr : r.reaches d.1
    · exact .inr ⟨d, rfl, by simp [hr]⟩
    · exact .inl (by simp [hr])

end Ledger

/-- An answer is what one of some workers replies to the request that was handed over, and it is
addressed to the client of the request. -/
def Answer.Valid (P : Shared → Prop) (workers : List Worker) (a : Answer) : Prop :=
  ∃ (e : Envelope) (reply : List UInt8), a.handOff.request = e.frames ∧
    a.reply = ⟨e.client, reply⟩ ∧ ∃ w ∈ workers, w.handler.Answers P e.payload reply

namespace Pool

variable {P : Shared → Prop} {workers : List Worker} {s s' : Pool}

/-- Each thread is that of a worker of the pool, whose handler may only know another request. -/
def Staffed (workers : List Worker) (ts : List Thread) : Prop :=
  ∀ t ∈ ts, ∃ w ∈ workers, t.worker.handler.clear = w.handler.clear

/-- Replacing a thread keeps the pool staffed. -/
lemma Staffed.set {ts : List Thread} {i : Nat} {t t' : Thread} (h : Staffed workers ts)
    (hi : ts[i]? = some t) (hc : t'.worker.handler.clear = t.worker.handler.clear) :
    Staffed workers (ts.set i t') := by
  intro u hu
  obtain hu | rfl := List.mem_or_eq_of_mem_set hu
  · exact h u hu
  · obtain ⟨w, hw, ht⟩ := h t (List.mem_of_getElem? hi)
    exact ⟨w, hw, hc.trans ht⟩

/-- Every step keeps the pool staffed. -/
lemma Step.staffed (st : s.Step s') (hi : s.Inv P) (h : Staffed workers s.threads) :
    Staffed workers s'.threads := by
  cases st with
  | broker => exact h
  | announce ht => exact h.set ht rfl
  | take ht => exact h.set ht rfl
  | work ht => exact h.set ht rfl
  | reply ht =>
    obtain ⟨-, hclear, -⟩ := (hi.stationed.fits _ (List.mem_of_getElem? ht)).reply
    exact h.set ht hclear
  | fall ht => exact h.set ht rfl

/-- What holds of requests and replies in every state of a run. -/
structure Accounted (P : Shared → Prop) (workers : List Worker) (g : Ledger) : Prop where
  settled : g.handed.Perm (g.answered.map (·.handOff) ++ g.outstanding)
  valid : ∀ a ∈ g.answered, a.Valid P workers
  /-- What was put into mailboxes are the replies of some answers. -/
  delivered : ∃ as : List Answer, as.Sublist g.answered ∧
    g.delivered.map some = as.map fun a => Broker.delivery? a.reply

/-- A reply that the broker takes is what one of the threads answers to the request that its worker
has been handed. -/
lemma exists_answer {e : Exchange} {g : Ledger} {st : LoopStage} {ts : List Thread} {m : Multipart}
    {rest : Channel Multipart} {w : WorkerId} {reply : Envelope} (hi : Manned P ts ⟨e, st, g⟩)
    (hr : e.backend.receive = .item m rest) (hrep : e.broker.reply? m = some (w, reply)) :
    ∃ t ∈ ts, t.id = w ∧ ∃ (e' : Envelope) (r : List UInt8), reply = ⟨e'.client, r⟩ ∧
      t.worker.handler.Answers P e'.payload r ∧ g.duty w = some e'.frames := by
  obtain ⟨rfl, -, -⟩ := Broker.reply?_eq_some hrep
  obtain ⟨hq, -⟩ := Channel.receive_eq_item hr
  -- the message is among those that somebody has sent
  have hsent : (e.view g w).sent =
      (w.frame :: reply.frames) :: (Exchange.view { e with backend := rest } g w).sent := by
    simp [Exchange.view, hq]
  obtain ⟨t, ht, rfl⟩ := hi.stationed.exists_thread (w := w) fun hn => by
    have hnil : (e.view g w).sent = [] := congrArg View.sent hn
    rw [hsent] at hnil
    cases hnil
  obtain ⟨-, -, hcase, -⟩ := (hi.stationed.fits t ht).hear hsent
  obtain ⟨hg, -⟩ | ⟨-, e', r, hm, -, ha, hduty⟩ := hcase
  · have hready : reply.frames = [Broker.readyFrame] := (List.cons.inj hg).2
    exact absurd hready (Broker.frames_ne_ready reply)
  · have hreply : reply = ⟨e'.client, r⟩ := Envelope.frames_injective (List.cons.inj hm).2
    exact ⟨t, ht, rfl, e', r, hreply, ha, hduty⟩

/-- A reply to a request that somebody has is accounted for. -/
lemma Accounted.settle {g : Ledger} {w : WorkerId} {request : Multipart} {reply : Envelope}
    (h : Accounted P workers g) (hn : (g.outstanding.map (·.worker)).Nodup)
    (hd : g.duty w = some request) (hv : Answer.Valid P workers ⟨⟨w, request⟩, reply⟩)
    (r : Registry) : Accounted P workers ((g.settle w reply).deliver r reply) := by
  have hout : (⟨w, request⟩ : Broker.HandOff) ∈ g.outstanding := Ledger.mem_of_duty hd
  have hperm := Ledger.perm_filter_worker hn hout
  obtain ⟨as, hsub, has⟩ := h.delivered
  rw [Ledger.settle_of_duty hd]
  refine ⟨?_, ?_, ?_⟩
  · simp only [Ledger.handed_deliver, Ledger.answered_deliver, Ledger.outstanding_deliver,
      List.map_append, List.map_cons, List.map_nil, List.append_assoc, List.singleton_append]
    exact h.settled.trans (hperm.append_left _)
  · simp only [Ledger.answered_deliver, List.mem_append, List.mem_singleton]
    rintro a (ha | rfl)
    · exact h.valid a ha
    · exact hv
  · rw [Ledger.answered_deliver]
    -- the reply of a client that has left is not put into a mailbox
    obtain hdel | ⟨d, hd, hdel⟩ := Ledger.delivered_deliver _ _ _
    · exact ⟨as, hsub.trans (List.sublist_append_left _ _), by rw [hdel, has]⟩
    · refine ⟨_, hsub.append (.refl _), ?_⟩
      rw [hdel, List.map_append, has, List.map_append]
      simp [hd]

/-- The messages of workers that the broker takes are accounted for. -/
lemma Accounted.hear {e : Exchange} {g : Ledger} {st : LoopStage} {ts : List Thread} {m : Multipart}
    {rest : Channel Multipart} (h : Accounted P workers g) (hi : Manned P ts ⟨e, st, g⟩)
    (hs : Staffed workers ts) (hr : e.backend.receive = .item m rest) :
    Accounted P workers (g.attend { e with backend := rest } (.worker m)) := by
  simp only [Ledger.attend]
  split
  · next w reply hrep =>
    obtain ⟨t, ht, rfl, e', r, rfl, ha, hd⟩ := exists_answer hi hr hrep
    obtain ⟨w, hw, hclear⟩ := hs t ht
    have hv : Answer.Valid P workers ⟨⟨t.id, e'.frames⟩, ⟨e'.client, r⟩⟩ :=
      ⟨e', r, rfl, rfl, w, hw, Handler.answers_of_clear hclear.symm ha⟩
    exact h.settle hi.single hd hv e.registry
  · exact h

/-- Every step of the broker keeps account. -/
lemma Accounted.step {ts : List Thread} {l l' : BrokerLoop} (st : l.Step l')
    (h : Accounted P workers l.ledger) (hi : Manned P ts l) (hs : Staffed workers ts) :
    Accounted P workers l'.ledger := by
  have hand : ∀ {g : Ledger} (os : List Broker.HandOff), Accounted P workers g →
      Accounted P workers (g.hand os) := fun os hg =>
    ⟨by simpa [Ledger.hand, ← List.append_assoc] using hg.settled.append_right os, hg.valid,
      hg.delivered⟩
  cases st with
  | @attend e r g event ho he =>
    cases ho with
    | worker hr => exact h.hear hi hs hr
    | @client m =>
      simp only [Ledger.attend, Ledger.take]
      cases Envelope.parse m with
      | ok => exact ⟨h.settled, h.valid, h.delivered⟩
      | error => exact h
    | _ => simp [Exchange.Event.loopEnd?] at he
  | round => exact hand _ h
  | lastRound => exact hand _ h
  | _ => exact h

/-- In every run, requests and replies are accounted for. -/
theorem Reachable.accounted {maxPending : Nat} {shared : Shared}
    (h : Reachable workers maxPending shared s) (hn : (workers.map (·.id)).Nodup) :
    Staffed workers s.threads ∧ Accounted (Sees workers maxPending shared) workers s.ledger := by
  induction h with
  | start =>
    refine ⟨fun t ht => ?_, .refl _, nofun, [], .refl _, rfl⟩
    obtain ⟨w, hw, rfl⟩ := List.mem_map.1 ht
    exact ⟨w, hw, rfl⟩
  | step hr st ih =>
    obtain ⟨hs, ha⟩ := ih
    have hi := hr.manned hn
    refine ⟨st.staffed hi hs, ?_⟩
    cases st with
    | broker hl => exact ha.step hl hi hs
    | _ => exact ha
  | outside _ _ ih => exact ih

end Pool

end Wayfinding
