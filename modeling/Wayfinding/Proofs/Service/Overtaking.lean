import Wayfinding.Proofs.Service.Delivery

/-!
# Overtaking

A client that passes on several requests before it reads is answered by several workers, and the
reply to a later request may be there first. How far replies can overtake each other is bounded by
how many of the client's requests can be with workers at once: the number of workers, or the number
of requests that the client sends before it reads. If that is one, the replies come in the order of
the requests; with two workers and two requests, they need not.

Main definitions: `FollowsWithin`, `Hub.Paced`, `Hub.InOrder`, `Hub.NearlyInOrder`.
Main statement: `Hub.Paced.nearly_in_order`.
-/

namespace Wayfinding

/-! ### Lists that follow each other -/

section Following

variable {α β : Type} {xs xs' ys ys' : List α} {x : α} {b : Nat}

/-- A list follows another, except that each of its elements may come up to `b - 1` places too
early: its first elements are among as many first elements of the other and `b - 1` more. -/
def FollowsWithin (b : Nat) (xs ys : List α) : Prop :=
  ∀ k ≤ xs.length, (xs.take k).Subperm (ys.take (k + (b - 1)))

namespace FollowsWithin

/-- Nothing follows anything. -/
lemma nil (ys : List α) : FollowsWithin b [] ys := by
  intro k _
  rw [List.take_nil]
  exact List.nil_subperm

/-- The list that is followed goes on. -/
lemma extend (h : FollowsWithin b xs ys) (hy : ys <+: ys') : FollowsWithin b xs ys' := by
  obtain ⟨zs, rfl⟩ := hy
  intro k hk
  rw [List.take_append]
  exact (h k hk).trans (List.sublist_append_left ..).subperm

/-- The beginning of a list that follows another follows it too. -/
lemma shorten (h : FollowsWithin b xs ys) (hx : xs' <+: xs) : FollowsWithin b xs' ys := by
  obtain ⟨zs, rfl⟩ := hx
  intro k hk
  have htake : (xs' ++ zs).take k = xs'.take k := List.take_append_of_le_length hk
  rw [← htake]
  exact h k (hk.trans (List.sublist_append_left ..).length_le)

/-- A list follows with one element more, if not more than `b` elements are left. -/
lemma concat (h : FollowsWithin b xs ys) (hs : (xs ++ [x]).Subperm ys)
    (hl : ys.length ≤ xs.length + b) : FollowsWithin b (xs ++ [x]) ys := by
  intro k hk
  obtain hk | rfl := Nat.le_or_eq_of_le_succ (by simpa using hk)
  · rw [List.take_append_of_le_length hk]
    exact h k hk
  · rw [List.take_of_length_le (by simp), List.take_of_length_le (by omega)]
    exact hs

/-- What nothing overtakes is a beginning. -/
lemma isPrefix (h : FollowsWithin b xs ys) (hb : b ≤ 1) : xs <+: ys := by
  have hperm : ∀ k ≤ xs.length, k ≤ ys.length ∧ (xs.take k).Perm (ys.take k) := by
    intro k hk
    have hs := h k hk
    rw [Nat.sub_eq_zero_of_le hb, Nat.add_zero] at hs
    have hlen := hs.length_le
    rw [List.length_take_of_le hk, List.length_take] at hlen
    refine ⟨by omega, hs.perm_of_length_le ?_⟩
    rw [List.length_take_of_le hk]
    exact List.length_take_le ..
  have heq : ∀ k ≤ xs.length, xs.take k = ys.take k := by
    intro k hk
    induction k with
    | zero => rfl
    | succ k ih =>
      obtain ⟨hlen, hp⟩ := hperm (k + 1) hk
      rw [List.take_succ_eq_append_getElem hk, List.take_succ_eq_append_getElem hlen,
        ih (by omega), List.perm_append_left_iff, List.singleton_perm_singleton] at hp
      rw [List.take_succ_eq_append_getElem hk, List.take_succ_eq_append_getElem hlen,
        ih (by omega), hp]
  have hall := heq xs.length le_rfl
  rw [List.take_length] at hall
  exact hall ▸ List.take_prefix ..

/-- Lists of images follow each other like the lists themselves. -/
lemma map_iff {f : α → β} (hf : Function.Injective f) :
    FollowsWithin b (xs.map f) (ys.map f) ↔ FollowsWithin b xs ys := by
  simp only [FollowsWithin, List.length_map, ← List.map_take, List.map_subperm_map_iff hf]

end FollowsWithin

end Following

/-! ### Requests of one client -/

/-- The messages of a client among some addressed messages. -/
def sentBy (c : ClientId) (ms : List Multipart) : List Multipart :=
  ms.filter fun m => m.head? = some c.frame

namespace Ledger

/-- The requests of a client that were handed to workers. -/
def handedOf (c : ClientId) (g : Ledger) : List Multipart := sentBy c (g.handed.map (·.request))

/-- The requests of a client that were answered, in the order of the answers. -/
def answeredOf (c : ClientId) (g : Ledger) : List Multipart :=
  sentBy c (g.answered.map (·.handOff.request))

/-- The requests of a client that workers still have. -/
def outstandingOf (c : ClientId) (g : Ledger) : List Multipart :=
  sentBy c (g.outstanding.map (·.request))

end Ledger

section Accounts

variable {P : Shared → Prop} {workers : List Worker} {c : ClientId}

/-- What a client's requests that were handed to workers have become. -/
lemma Pool.Accounted.handedOf_perm {g : Ledger} (h : Accounted P workers g) :
    (g.handedOf c).Perm (g.answeredOf c ++ g.outstandingOf c) := by
  have hp := (h.settled.map Broker.HandOff.request).filter fun m => m.head? = some c.frame
  rwa [List.map_append, List.filter_append, List.map_map] at hp

/-- In a step, the broker hands out requests or takes an answer. -/
lemma BrokerLoop.Step.progress {l l' : BrokerLoop} (st : l.Step l') :
    (∃ os, l'.ledger.handed = l.ledger.handed ++ os ∧ l'.ledger.answered = l.ledger.answered) ∨
      ∃ a, l'.ledger.handed = l.ledger.handed ∧ l'.ledger.answered = l.ledger.answered ++ [a] := by
  have hnothing : ∀ g g' : Ledger, g'.handed = g.handed → g'.answered = g.answered →
      (∃ os, g'.handed = g.handed ++ os ∧ g'.answered = g.answered) ∨
        ∃ a, g'.handed = g.handed ∧ g'.answered = g.answered ++ [a] :=
    fun g g' hh ha => .inl ⟨[], by rw [hh, List.append_nil], ha⟩
  cases st with
  | @attend e r g event ho he =>
    cases event with
    | worker m =>
      simp only [Ledger.attend]
      split
      · next w reply _ =>
        simp only [Ledger.handed_deliver, Ledger.answered_deliver, Ledger.settle]
        split
        · exact .inr ⟨_, rfl, rfl⟩
        · exact hnothing _ _ rfl rfl
      · exact hnothing _ _ rfl rfl
    | client m =>
      simp only [Ledger.attend, Ledger.take]
      split
      · exact hnothing _ _ rfl rfl
      · exact hnothing _ _ rfl rfl
    | _ => exact hnothing _ _ rfl rfl
  | round => exact .inl ⟨_, rfl, rfl⟩
  | lastRound => exact .inl ⟨_, rfl, rfl⟩
  | _ => exact hnothing _ _ rfl rfl

/-- Answers follow the requests that were handed out, if not more than `b` of them are with workers
when an answer is taken. -/
lemma BrokerLoop.Step.follows {b : Nat} {l l' : BrokerLoop} (st : l.Step l')
    (h : FollowsWithin b (l.ledger.answeredOf c) (l.ledger.handedOf c))
    (ha : Pool.Accounted P workers l.ledger) (ha' : Pool.Accounted P workers l'.ledger)
    (hb : (l.ledger.outstandingOf c).length ≤ b) :
    FollowsWithin b (l'.ledger.answeredOf c) (l'.ledger.handedOf c) := by
  obtain ⟨os, hh, hans⟩ | ⟨a, hh, hans⟩ := st.progress
  · have heq : l'.ledger.answeredOf c = l.ledger.answeredOf c := by
      rw [Ledger.answeredOf, hans, Ledger.answeredOf]
    have hprefix : l.ledger.handedOf c <+: l'.ledger.handedOf c := by
      rw [Ledger.handedOf, Ledger.handedOf, hh, List.map_append, sentBy, sentBy, List.filter_append]
      exact List.prefix_append ..
    exact heq ▸ h.extend hprefix
  · have heq : l'.ledger.handedOf c = l.ledger.handedOf c := by
      rw [Ledger.handedOf, hh, Ledger.handedOf]
    have hone : l'.ledger.answeredOf c =
        l.ledger.answeredOf c ++ sentBy c [a.handOff.request] := by
      rw [Ledger.answeredOf, hans, List.map_append, sentBy, List.filter_append]
      rfl
    by_cases hc : a.handOff.request.head? = some c.frame
    · have hsent : sentBy c [a.handOff.request] = [a.handOff.request] := by simp [sentBy, hc]
      have hsub := (List.sublist_append_left (l'.ledger.answeredOf c)
        (l'.ledger.outstandingOf c)).subperm.trans ha'.handedOf_perm.symm.subperm
      rw [heq, hone, hsent] at hsub
      rw [heq, hone, hsent]
      refine h.concat hsub ?_
      rw [ha.handedOf_perm.length_eq, List.length_append]
      omega
    · have hsent : sentBy c [a.handOff.request] = [] := by simp [sentBy, hc]
      rw [heq, hone, hsent, List.append_nil]
      exact h

/-- No worker has more than one request. -/
lemma Pool.Reachable.length_outstanding_le {maxPending : Nat} {shared : Shared} {s : Pool}
    (h : Reachable workers maxPending shared s) (hn : (workers.map (·.id)).Nodup) :
    s.ledger.outstanding.length ≤ workers.length := by
  have hthreads : s.threads.length = workers.length := by
    clear hn
    induction h with
    | start => simp [Pool.start]
    | step _ st ih =>
      cases st with
      | broker => exact ih
      | _ => exact (List.length_set ..).trans ih
    | outside _ _ ih => exact ih
  have hm := h.manned hn
  have hsub : s.ledger.outstanding.map (·.worker) ⊆ s.threads.map Thread.id := by
    intro w hw
    by_contra hnot
    have hduty := congrArg View.duty (hm.stationed.nobody w hnot)
    exact Ledger.duty_eq_none.1 hduty hw
  have hlen := (hm.single.subperm hsub).length_le
  rwa [List.length_map, List.length_map, hthreads] at hlen

end Accounts

/-- A request for a matrix that says nothing about the matrix. -/
def Request.incomplete : Request := { requestedApi := 1 }

/-- Two bytes are a request that asks for a matrix of nothing. -/
lemma Request.decode?_incomplete : decode? [8, 1] = some incomplete := by decide +kernel

/-- What is missing is what a handler answers to it. -/
lemma Handler.eq_of_answers_incomplete {P : Shared → Prop} {h : Handler} {reply : List UInt8}
    (ha : h.Answers P [8, 1] reply) :
    reply = (Refusal.missingField "sn_routing_matrix").response.encode := by
  obtain ⟨h', hl⟩ := ha
  simp only [handlePayload, respond, Request.decode?_incomplete] at hl
  cases hl.of_measure.of_measure.of_done
  rfl

namespace Hub

/-- The payloads of the requests that a client has passed on, in this order. -/
def requestsOf (c : ClientId) (s : Hub) : List Frame :=
  (s.forwarded.filter fun f => f.1 = c).map (·.2)

/-- The states of runs in which a client never waits for the replies to more than `b` requests. -/
inductive Paced (workers : List Worker) (maxPending : Nat) (shared : Shared)
    (capacity : Option Nat) (frameLimit : Nat) (c : ClientId) (b : Nat) : Hub → Prop where
  | start :
    Paced workers maxPending shared capacity frameLimit c b
      (.start workers maxPending shared capacity frameLimit)
  | step {s s'} :
    Paced workers maxPending shared capacity frameLimit c b s →
    Step s s' →
    (s'.requestsOf c).length ≤ (mailOf c s'.collected).length + b →
    Paced workers maxPending shared capacity frameLimit c b s'

/-- The replies that a client has received, in this order, with the requests that they answer. -/
structure Received (P : Shared → Prop) (workers : List Worker) (s : Hub) (c : ClientId)
    (rs : List Reply) : Prop where
  own : ∀ r ∈ rs, r.client = c
  collected : mailOf c s.collected = rs.map fun r => ClientMessage.frames r.reply
  answers : ∀ r ∈ rs, ∃ w ∈ workers, w.handler.Answers P r.payload r.reply

/-- The replies that a client has received answer its first requests, one after the other. -/
def InOrder (P : Shared → Prop) (workers : List Worker) (s : Hub) (c : ClientId) : Prop :=
  ∃ rs, s.Received P workers c rs ∧ rs.map (·.payload) <+: s.requestsOf c

/-- The replies that a client has received answer different requests, and none comes more than
`b - 1` places too early. -/
def NearlyInOrder (P : Shared → Prop) (workers : List Worker) (b : Nat) (s : Hub) (c : ClientId) :
    Prop :=
  ∃ rs, s.Received P workers c rs ∧ FollowsWithin b (rs.map (·.payload)) (s.requestsOf c)

variable {workers : List Worker} {maxPending : Nat} {shared : Shared} {capacity : Option Nat}
  {frameLimit : Nat} {s s' : Hub} {P : Shared → Prop} {c : ClientId} {b : Nat}

/-- A paced run is a run. -/
lemma Paced.reachable (h : Paced workers maxPending shared capacity frameLimit c b s) :
    Reachable workers maxPending shared capacity frameLimit s := by
  induction h with
  | start => exact .start
  | step _ st _ ih => exact ih.step st

/-- Nothing that was passed on is forgotten. -/
lemma Step.forwarded_prefix (st : s.Step s') : s.forwarded <+: s'.forwarded := by
  cases st with
  | pass => exact List.prefix_append ..
  | _ => exact List.prefix_rfl

/-- Every client has its pace: it does not wait for more replies than it has passed on requests. -/
lemma Reachable.paced (h : Reachable workers maxPending shared capacity frameLimit s)
    (hb : (s.requestsOf c).length ≤ b) :
    Paced workers maxPending shared capacity frameLimit c b s := by
  induction h with
  | start => exact .start
  | step _ st ih =>
    have hle := ((st.forwarded_prefix.filter fun f => f.1 = c).map (·.2)).length_le
    exact .step (ih (hle.trans hb)) st (hb.trans (Nat.le_add_left ..))

/-- The messages of a client among requests. -/
lemma sentBy_map_request {α : Type} (xs : List α) (f : α → ClientId × Frame) (c : ClientId) :
    sentBy c (xs.map fun x => request (f x)) =
      ((xs.filter fun x => (f x).1 = c).map fun x => (f x).2).map fun p => request (c, p) := by
  have hof : ∀ x, decide ((request (f x)).head? = some c.frame) = decide ((f x).1 = c) :=
    fun x => by simp [request, Envelope.frames, ClientId.frame_injective.eq_iff]
  rw [sentBy, List.filter_map, List.map_map]
  simp only [Function.comp_def, hof]
  refine List.map_congr_left fun x hx => ?_
  obtain rfl : (f x).1 = c := by simpa using List.of_mem_filter hx
  rfl

/-- The requests of a client that were handed to workers are the first that it has passed on. -/
lemma Inv.handedOf_prefix (hi : s.Inv) (hk : s.pool.loop.Kept) (c : ClientId) :
    s.ledger.handedOf c <+: (s.requestsOf c).map fun p => request (c, p) := by
  have hsent := sentBy_map_request s.forwarded id c
  simp only [id_eq] at hsent
  rw [requestsOf, ← hsent, hi.passed, hk.order, List.append_assoc, sentBy, List.filter_append]
  exact List.prefix_append ..

/-- The answers that workers have given are replies to clients, in the same order. -/
lemma exists_replies (hi : s.Inv) (hk : s.pool.loop.Kept)
    (ha : Pool.Accounted P workers s.ledger) :
    ∃ rs : List Reply,
      s.ledger.answered.map (·.handOff.request) = rs.map (fun r => request (r.client, r.payload)) ∧
      s.ledger.replies = rs.map (fun r => (r.client, ClientMessage.frames r.reply)) ∧
      ∀ r ∈ rs, ∃ w ∈ workers, w.handler.Answers P r.payload r.reply := by
  have hsub := (hi.subperm_forwarded hk ha (.refl _)).subset
  have hex : ∀ a ∈ s.ledger.answered, ∃ r : Reply,
      request (r.client, r.payload) = a.handOff.request ∧
      Broker.delivery? a.reply = some (r.client, ClientMessage.frames r.reply) ∧
      ∃ w ∈ workers, w.handler.Answers P r.payload r.reply :=
    fun a hmem => exists_reply (ha.valid a hmem) (hsub (List.mem_map_of_mem hmem))
  choose! reply hreq hdelivery hw using hex
  refine ⟨s.ledger.answered.map reply, ?_, ?_, fun r hr => ?_⟩
  · rw [List.map_map]
    exact (List.map_congr_left hreq).symm
  · rw [Ledger.replies, List.map_map]
    have hsome := List.filterMap_congr hdelivery
    rw [hsome, List.filterMap_eq_map']
    rfl
  · obtain ⟨a, hmem, rfl⟩ := List.mem_map.1 hr
    exact hw a hmem

/-- What was answered to one client. -/
lemma exists_repliesOf (hi : s.Inv) (hk : s.pool.loop.Kept)
    (ha : Pool.Accounted P workers s.ledger) (c : ClientId) :
    ∃ rs : List Reply, (∀ r ∈ rs, r.client = c) ∧
      s.ledger.answeredOf c = (rs.map (·.payload)).map (fun p => request (c, p)) ∧
      mailOf c s.ledger.replies = rs.map (fun r => ClientMessage.frames r.reply) ∧
      ∀ r ∈ rs, ∃ w ∈ workers, w.handler.Answers P r.payload r.reply := by
  obtain ⟨rs, hans, hrep, hw⟩ := exists_replies hi hk ha
  refine ⟨rs.filter fun r => r.client = c, fun r hr => ?_, ?_, ?_, fun r hr => ?_⟩
  · simpa using List.of_mem_filter hr
  · rw [Ledger.answeredOf, hans]
    exact sentBy_map_request rs (fun r => (r.client, r.payload)) c
  · rw [hrep, mailOf, List.filter_map, List.map_map]
    rfl
  · exact hw r (List.mem_of_mem_filter hr)

/-- What a client has received are the first answers to its requests. -/
lemma Told.collected_replies (h : s.Told) (c : ClientId) :
    mailOf c s.collected <+: mailOf c s.ledger.replies :=
  (h.collected c).trans (h.heard c)

/-- Of the requests of a client, no more are with workers than it waits for. -/
lemma length_outstandingOf_le (hi : s.Inv) (hk : s.pool.loop.Kept)
    (ha : Pool.Accounted P workers s.ledger) (ht : s.Told)
    (hb : (s.requestsOf c).length ≤ (mailOf c s.collected).length + b) :
    (s.ledger.outstandingOf c).length ≤ b := by
  obtain ⟨rs, -, hans, hrep, -⟩ := exists_repliesOf hi hk ha c
  have hhanded := (hi.handedOf_prefix hk c).length_le
  rw [List.length_map, ha.handedOf_perm.length_eq, List.length_append, hans, List.length_map,
    List.length_map] at hhanded
  have htold := (ht.collected_replies c).length_le
  rw [hrep, List.length_map] at htold
  omega

/-- Every step lets the answers follow the requests. -/
lemma Step.follows (st : s.Step s')
    (h : FollowsWithin b (s.ledger.answeredOf c) (s.ledger.handedOf c))
    (ha : Pool.Accounted P workers s.ledger) (ha' : Pool.Accounted P workers s'.ledger)
    (hb : (s.ledger.outstandingOf c).length ≤ b) :
    FollowsWithin b (s'.ledger.answeredOf c) (s'.ledger.handedOf c) := by
  cases st with
  | inside hp =>
    cases hp with
    | broker hl => exact hl.follows h ha ha' hb
    | _ => exact h
  | _ => exact h

/-- In every run, the answers to a client's requests follow the requests. -/
lemma Paced.follows (h : Paced workers maxPending shared capacity frameLimit c b s)
    (hn : (workers.map (·.id)).Nodup) (hl : s.links.length < UInt64.size) :
    (s.ledger.outstandingOf c).length ≤ min b workers.length ∧
      FollowsWithin (min b workers.length) (s.ledger.answeredOf c) (s.ledger.handedOf c) := by
  have hpool : ∀ {s : Hub}, s.pool.Reachable workers maxPending shared →
      (s.ledger.outstandingOf c).length ≤ workers.length := by
    intro s hr
    refine List.length_filter_le .. |>.trans ?_
    rw [List.length_map]
    exact hr.length_outstanding_le hn
  induction h with
  | start => exact ⟨Nat.zero_le _, .nil _⟩
  | @step s s' hr st hb ih =>
    obtain ⟨hout, hf⟩ := ih (st.length_links_le.trans_lt hl)
    have hr' := hr.reachable.step st
    have ha' := (hr'.pool.accounted hn).2
    refine ⟨le_min ?_ (hpool hr'.pool), ?_⟩
    · exact length_outstandingOf_le (hr'.inv hl) (hr'.pool.manned hn).kept ha' (hr'.told hn hl) hb
    · exact st.follows hf (hr.reachable.pool.accounted hn).2 ha' hout

/-- What nothing overtakes is in order. -/
lemma NearlyInOrder.inOrder (h : s.NearlyInOrder P workers b c) (hb : b ≤ 1) :
    s.InOrder P workers c := by
  obtain ⟨rs, hr, hf⟩ := h
  exact ⟨rs, hr, hf.isPrefix hb⟩

/-- In every run with fewer than 2⁶⁴ connections, the replies that a client has received come nearly
in the order of its requests: none comes earlier by as many places as there are workers, or as the
client has requests that wait for replies. With one worker, or a client that waits for each reply,
they come in order. -/
theorem Paced.nearly_in_order (h : Paced workers maxPending shared capacity frameLimit c b s)
    (hn : (workers.map (·.id)).Nodup) (hl : s.links.length < UInt64.size) :
    s.NearlyInOrder (Pool.Sees workers maxPending shared) workers (min b workers.length) c ∧
      (b ≤ 1 ∨ workers.length ≤ 1 →
        s.InOrder (Pool.Sees workers maxPending shared) workers c) := by
  have hr := h.reachable
  have hi := hr.inv hl
  have hk := (hr.pool.manned hn).kept
  obtain ⟨-, hf⟩ := h.follows hn hl
  obtain ⟨rs, hown, hans, hrep, hw⟩ := exists_repliesOf hi hk (hr.pool.accounted hn).2 c
  have hall : FollowsWithin (min b workers.length) (rs.map (·.payload)) (s.requestsOf c) := by
    have hreq := hf.extend (hi.handedOf_prefix hk c)
    rw [hans] at hreq
    exact (FollowsWithin.map_iff fun p q h => (Prod.mk.inj (request_injective h)).2).1 hreq
  -- what the client has received are the first of these answers
  have hprefix := (hr.told hn hl).collected_replies c
  rw [hrep, List.prefix_iff_eq_take, ← List.map_take] at hprefix
  have hnearly : s.NearlyInOrder (Pool.Sees workers maxPending shared) workers
      (min b workers.length) c := by
    refine ⟨_, ⟨fun r hr => hown r (List.mem_of_mem_take hr), hprefix,
      fun r hr => hw r (List.mem_of_mem_take hr)⟩, hall.shorten ?_⟩
    exact (List.take_prefix ..).map _
  exact ⟨hnearly, fun hb => hnearly.inOrder (by omega)⟩

/-- What a worker without engine replies to a request with something missing. -/
lemma idler_answer_incomplete (w : WorkerId) (s₁ s₂ : Shared) :
    (((Worker.answer ⟨w, Worker.idler.handler⟩ (request (⟨1⟩, [8, 1]))).step s₁).1.step s₂).1 =
      .done (w.frame ::
          request (⟨1⟩, (Refusal.missingField "sn_routing_matrix").response.encode),
        ⟨w, Worker.idler.handler⟩) := by
  refine answer_two_steps ?_ ⟨1⟩ s₁ s₂
  simp only [Handler.handlePayload, Handler.respond, Request.decode?_incomplete]
  rfl

/-- What the worker replies to a request for nothing. -/
lemma idler_answer_blank (w : WorkerId) (s₁ s₂ : Shared) :
    (((Worker.answer ⟨w, Worker.idler.handler⟩ (request (⟨1⟩, []))).step s₁).1.step s₂).1 =
      .done (w.frame :: request (⟨1⟩, []), ⟨w, Worker.idler.handler⟩) := by
  have hdecode : Request.decode? [] = some {} := by decide +kernel
  refine answer_two_steps ?_ ⟨1⟩ s₁ s₂
  simp only [Handler.handlePayload, Handler.respond, hdecode]
  rfl

/-- The bytes of two requests: one with something missing, and one for nothing. -/
def twoRequests : List UInt8 :=
  [0, 0, 0, 2, 0, 0, 0, 0, 0, 0, 0, 2, 8, 1, 0, 0, 0, 2, 0, 0, 0, 0, 0, 0, 0, 0]

/-- The bytes hold two requests. -/
lemma takeBytes_twoRequests :
    Connection.takeBytes { client := ⟨1⟩, frameLimit := 8 } twoRequests =
      ([[8, 1], []].map (Connection.addressed { client := ⟨1⟩, frameLimit := 8 }),
        some { client := ⟨1⟩, frameLimit := 8 }) := by
  decide +kernel

/-- A client sends two requests before it reads, and the one worker answers them in order. -/
theorem nearly_in_order_alone : ∃ s : Hub,
    Paced [.idler] 1 ⟨.ofCapacities fun _ => 1, [], []⟩ none 8 ⟨1⟩ 2 s ∧
      s.requestsOf ⟨1⟩ = [[8, 1], []] ∧
      mailOf ⟨1⟩ s.collected =
        [(Refusal.missingField "sn_routing_matrix").response.encode, []].map
          ClientMessage.frames ∧
      s.InOrder (Pool.Sees [.idler] 1 ⟨.ofCapacities fun _ => 1, [], []⟩) [.idler] ⟨1⟩ := by
  have started : Reachable [.idler] 1 ⟨.ofCapacities fun _ => 1, [], []⟩ none 8 _ := .start
  have connected := started.step .connect |>.step (.register (i := 0) rfl rfl)
  have read := connected.step (.read (i := 0) rfl rfl takeBytes_twoRequests)
  have passed := read.step (.pass (i := 0) rfl (.inl rfl) rfl rfl)
    |>.step (.pass (i := 0) rfl (.inl rfl) rfl rfl)
  have announced := passed.step (.inside (.announce (i := 0) rfl))
  have heard := announced.step (.inside (.broker (.attend (.worker rfl) rfl)))
    |>.step (.inside (.broker (.rest (.inl rfl))))
  have taken := heard.step (.inside (.broker (.attend (.client (by decide) rfl) rfl)))
  have handed := taken.step (.inside (.broker (.round (.hand rfl rfl (by decide) (by decide)) rfl)))
    |>.step (.inside (.broker (.rest (.inl rfl))))
  have finished := handed.step (.inside (.take (i := 0) rfl rfl rfl))
    |>.step (.inside (.work (i := 0) rfl)) |>.step (.inside (.work (i := 0) rfl))
  have replied := finished.step (.inside (.reply (i := 0)
    (congrArg (fun p => some (Thread.mk .idler (.handling (request (⟨1⟩, [8, 1])) p)))
      (idler_answer_incomplete _ _ _))))
  have delivered := replied.step (.inside (.broker (.attend (.worker rfl) rfl)))
    |>.step (.inside (.broker (.rest (.inl rfl))))
  have taken' := delivered.step (.inside (.broker (.attend (.client (by decide) rfl) rfl)))
  have handed' :=
    taken'.step (.inside (.broker (.round (.hand rfl rfl (by decide) (by decide)) rfl)))
    |>.step (.inside (.broker (.rest (.inl rfl))))
  have finished' := handed'.step (.inside (.take (i := 0) rfl rfl rfl))
    |>.step (.inside (.work (i := 0) rfl)) |>.step (.inside (.work (i := 0) rfl))
  have replied' := finished'.step (.inside (.reply (i := 0)
    (congrArg (fun p => some (Thread.mk .idler (.handling (request (⟨1⟩, [])) p)))
      (idler_answer_blank _ _ _))))
  have delivered' := replied'.step (.inside (.broker (.attend (.worker rfl) rfl)))
  have collected := delivered'.step (.write (i := 0) rfl rfl rfl)
    |>.step (.write (i := 0) rfl rfl rfl)
  have paced := collected.paced (c := ⟨1⟩) (b := 2) (by decide)
  exact ⟨_, paced, rfl, rfl, (paced.nearly_in_order (by decide) (by decide)).2 (.inr le_rfl)⟩

/-- A client sends two requests before it reads, and of two workers the one that has got the second
request is the first to answer. -/
theorem not_in_order_in_company :
    ¬ ∀ (workers : List Worker) (maxPending : Nat) (shared : Shared) (capacity : Option Nat)
      (frameLimit : Nat) (s : Hub) (c : ClientId), (workers.map (·.id)).Nodup →
        Reachable workers maxPending shared capacity frameLimit s →
          s.InOrder (Pool.Sees workers maxPending shared) workers c := by
  intro h
  have started : Reachable [.idler, ⟨⟨[8]⟩, Worker.idler.handler⟩] 1
      ⟨.ofCapacities fun _ => 1, [], []⟩ none 8 _ := .start
  have connected := started.step .connect |>.step (.register (i := 0) rfl rfl)
  have read := connected.step (.read (i := 0) rfl rfl takeBytes_twoRequests)
  have passed := read.step (.pass (i := 0) rfl (.inl rfl) rfl rfl)
    |>.step (.pass (i := 0) rfl (.inl rfl) rfl rfl)
  have heard := passed.step (.inside (.announce (i := 0) rfl))
    |>.step (.inside (.broker (.attend (.worker rfl) rfl)))
    |>.step (.inside (.broker (.rest (.inl rfl))))
  have heard' := heard.step (.inside (.announce (i := 1) rfl))
    |>.step (.inside (.broker (.attend (.worker rfl) rfl)))
    |>.step (.inside (.broker (.rest (.inl rfl))))
  have taken := heard'.step (.inside (.broker (.attend (.client (by decide) rfl) rfl)))
  have handed := taken.step (.inside (.broker (.round (.hand rfl rfl (by decide) (by decide)) rfl)))
    |>.step (.inside (.broker (.rest (.inl rfl))))
  have taken' := handed.step (.inside (.broker (.attend (.client (by decide) rfl) rfl)))
  have handed' :=
    taken'.step (.inside (.broker (.round (.hand rfl rfl (by decide) (by decide)) rfl)))
    |>.step (.inside (.broker (.rest (.inl rfl))))
  have finished := handed'.step (.inside (.take (i := 1) rfl rfl rfl))
    |>.step (.inside (.work (i := 1) rfl)) |>.step (.inside (.work (i := 1) rfl))
  have replied := finished.step (.inside (.reply (i := 1)
    (congrArg (fun p => some (Thread.mk ⟨⟨[8]⟩, Worker.idler.handler⟩
      (.handling (request (⟨1⟩, [])) p))) (idler_answer_blank _ _ _))))
  have collected := replied.step (.inside (.broker (.attend (.worker rfl) rfl)))
    |>.step (.write (i := 0) rfl rfl rfl)
  obtain ⟨rs, hrec, hprefix⟩ := h _ _ _ _ _ _ ⟨1⟩ (by decide) collected
  -- the only reply is blank, and the first request has no blank answer
  have hblank : [ClientMessage.frames []] = rs.map fun r => ClientMessage.frames r.reply :=
    hrec.collected
  obtain ⟨r, rfl, hr⟩ := List.map_eq_singleton_iff.1 hblank.symm
  have hreply : r.reply = [] := by simpa [ClientMessage.frames] using hr
  have hpayload : r.payload = [8, 1] := (List.cons_prefix_cons.1 hprefix).1
  obtain ⟨w, -, ha⟩ := hrec.answers r (List.mem_singleton_self r)
  rw [hpayload, hreply] at ha
  exact absurd (Handler.eq_of_answers_incomplete ha) (by decide +kernel)

end Hub

end Wayfinding
