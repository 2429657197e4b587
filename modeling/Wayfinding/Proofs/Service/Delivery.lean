import Wayfinding.Proofs.Service.Replies

/-!
# Delivery in the order of the answers

A connection registers before it passes on its first request. From then on until it leaves, every
answer to one of its requests is put into its mailbox, in the order in which the broker takes the
answers; after it has left, none is.

Main definition: `Hub.Told`.
Main lemmas: `Pool.Step.tells`, `Hub.Reachable.told`.
-/

namespace Wayfinding

namespace Registry

variable {r r' : Registry} {c : ClientId}

/-- Whom a reply reaches. -/
lemma reaches_iff : r.reaches c = true ↔ c ∈ r.connected ∧ (r.mailbox? c).isSome := by
  simp [reaches]

/-- Whether a client is reached depends on whether it is connected and has a mailbox. -/
lemma reaches_congr (hc : c ∈ r'.connected ↔ c ∈ r.connected)
    (hm : (r'.mailbox? c).isSome = (r.mailbox? c).isSome) : r'.reaches c = r.reaches c := by
  simp [reaches, hc, hm]

/-- A client that connects does not matter for the others. -/
lemma reaches_register_of_ne {c' : ClientId} (h : c ≠ c') :
    (r.register c').reaches c = r.reaches c :=
  reaches_congr (by simp [mem_connected_register, h]) (by rw [mailbox?_register_of_ne h])

/-- A client is reached whether or not it has taken a reply from its mailbox. -/
lemma reaches_pop {c' : ClientId} : (r.pop c').reaches c = r.reaches c := by
  refine reaches_congr .rfl ?_
  rw [mailbox?_pop]
  split <;> simp

/-- Nobody is reached because another client leaves. -/
lemma reaches_of_remove {c' : ClientId} (h : (r.remove c').reaches c = true) :
    r.reaches c = true := by
  obtain ⟨hc, hm⟩ := reaches_iff.1 h
  exact reaches_iff.2 ⟨(mem_connected_remove.1 hc).1, hm⟩

/-- Who is reached after others have hung up was reached before. -/
lemma reaches_of_hangUp {c' : ClientId} (h : (r.hangUp c').reaches c = true) :
    r.reaches c = true := by
  obtain ⟨hc, hm⟩ := reaches_iff.1 h
  refine reaches_iff.2 ⟨hc, ?_⟩
  by_cases he : c = c'
  · rw [he, mailbox?_hangUp_self] at hm
    cases hm
  · rwa [mailbox?_hangUp_of_ne he] at hm

end Registry

namespace Ledger

/-- The replies that were taken from workers, in the order in which they were taken. -/
def replies (g : Ledger) : List (ClientId × Multipart) :=
  g.answered.filterMap fun a => Broker.delivery? a.reply

/-- Taking a request is no reply. -/
lemma replies_take (g : Ledger) (m : Multipart) : (g.take m).replies = g.replies := by
  unfold take
  split <;> rfl

/-- An answer is a reply more, which is put into the mailbox of a client that is reached. -/
lemma mailOf_settle_deliver {g : Ledger} {w : WorkerId} {m : Multipart} (hd : g.duty w = some m)
    (r : Registry) (reply : Envelope) (c : ClientId) :
    ∃ ms, mailOf c ((g.settle w reply).deliver r reply).replies = mailOf c g.replies ++ ms ∧
      mailOf c ((g.settle w reply).deliver r reply).delivered =
        mailOf c g.delivered ++ if r.reaches c then ms else [] := by
  have hreplies : ((g.settle w reply).deliver r reply).replies =
      g.replies ++ (Broker.delivery? reply).toList := by
    rw [replies, answered_deliver, settle_of_duty hd, List.filterMap_append]
    cases hr : Broker.delivery? reply <;> simp [replies, hr]
  rw [hreplies, mailOf_append]
  refine ⟨_, rfl, ?_⟩
  have hsettle : (g.settle w reply).delivered = g.delivered := delivered_settle
  rw [deliver, ← hsettle]
  cases Broker.delivery? reply with
  | none => simp [mailOf]
  | some d =>
    obtain ⟨c', m⟩ := d
    by_cases hc : c = c'
    · subst hc
      by_cases hr : r.reaches c <;> simp [hr]
    · by_cases hr : r.reaches c' <;> simp [hr, mailOf_of_ne hc]

end Ledger

/-- A step of the broker puts the replies that it takes into the mailboxes of the clients that are
reached. -/
lemma BrokerLoop.Step.tells {P : Shared → Prop} {ts : List Thread} {l l' : BrokerLoop}
    (st : l.Step l') (h : Manned P ts l) (c : ClientId) :
    ∃ ms, mailOf c l'.ledger.replies = mailOf c l.ledger.replies ++ ms ∧
      mailOf c l'.ledger.delivered =
        mailOf c l.ledger.delivered ++ if l.exchange.registry.reaches c then ms else [] := by
  have hnone : ∀ g g' : Ledger, g'.replies = g.replies → g'.delivered = g.delivered →
      ∃ ms, mailOf c g'.replies = mailOf c g.replies ++ ms ∧ mailOf c g'.delivered =
        mailOf c g.delivered ++ if l.exchange.registry.reaches c then ms else [] :=
    fun g g' hr hd => ⟨[], by simp [hr], by simp [hd]⟩
  cases st with
  | @attend e _ g _ ho he =>
    cases ho with
    | @worker m rest hr =>
      simp only [Ledger.attend]
      split
      · next w reply hrep =>
        obtain ⟨t, -, rfl, e', r, rfl, -, hd⟩ := Pool.exists_answer h hr hrep
        exact Ledger.mailOf_settle_deliver hd e.registry _ c
      · exact hnone _ _ rfl rfl
    | @client m =>
      refine hnone _ _ (Ledger.replies_take _ _) ?_
      simp only [Ledger.attend, Ledger.take]
      split <;> rfl
    | _ => simp [Exchange.Event.loopEnd?] at he
  | _ => exact hnone _ _ rfl rfl

/-- A step of the pool puts the replies that the broker takes into the mailboxes of the clients that
are reached, and these stay the same. -/
lemma Pool.Step.tells {P : Shared → Prop} {s s' : Pool} (st : s.Step s') (h : s.Inv P)
    (c : ClientId) :
    s'.exchange.registry.reaches c = s.exchange.registry.reaches c ∧
    ∃ ms, mailOf c s'.ledger.replies = mailOf c s.ledger.replies ++ ms ∧
      mailOf c s'.ledger.delivered =
        mailOf c s.ledger.delivered ++ if s.exchange.registry.reaches c then ms else [] := by
  obtain ⟨hconn, ms, -, hbox, -⟩ := st.delivers c
  refine ⟨Registry.reaches_congr (by rw [hconn]) (by simp [hbox]), ?_⟩
  have hnothing : mailOf c s.ledger.delivered =
      mailOf c s.ledger.delivered ++ if s.exchange.registry.reaches c then [] else [] := by simp
  cases st with
  | broker hl => exact hl.tells h c
  | _ => exact ⟨[], (List.append_nil _).symm, hnothing⟩

namespace Hub

variable {workers : List Worker} {maxPending : Nat} {shared : Shared} {capacity : Option Nat}
  {frameLimit : Nat} {s s' : Hub} {P : Shared → Prop} {l l' : Link} {i : Nat} {c : ClientId}

/-- What a client is told of the answers to its requests. -/
structure Told (s : Hub) : Prop where
  /-- Only a connection that has registered passes on requests. -/
  registered : ∀ f ∈ s.forwarded, ∃ l ∈ s.links, l.client = f.1 ∧ l.stage ≠ .counted
  /-- What is put into the mailbox of a client are the first of the replies to it. -/
  heard : ∀ c, mailOf c s.ledger.delivered <+: mailOf c s.ledger.replies
  /-- As long as the client is reached, they are all of them. -/
  reached : ∀ c, s.exchange.registry.reaches c = true →
    mailOf c s.ledger.delivered = mailOf c s.ledger.replies
  /-- What a client has taken from its mailbox is what was first put into it. -/
  collected : ∀ c, mailOf c s.collected <+: mailOf c s.ledger.delivered

/-- The client of another connection that goes on has still registered. -/
lemma Told.registered_set (h : s.Told) (hi : s.links[i]? = some l) (hc : l'.client = l.client)
    (hs : l'.stage ≠ .counted) :
    ∀ f ∈ s.forwarded, ∃ l ∈ s.links.set i l', l.client = f.1 ∧ l.stage ≠ .counted := by
  intro f hf
  obtain ⟨l₀, hl₀, hc₀, hs₀⟩ := h.registered f hf
  by_cases he : l₀ = l
  · subst he
    exact ⟨l', Mailed.mem_set_self hi, hc.trans hc₀, hs⟩
  · exact ⟨l₀, mem_set_of_ne hi hl₀ he, hc₀, hs₀⟩

/-- A client that has passed on no request is told nothing. -/
lemma mailOf_replies_eq_nil (hi : s.Inv) (hk : s.pool.loop.Kept)
    (ha : Pool.Accounted P workers s.ledger) (hc : ∀ f ∈ s.forwarded, f.1 ≠ c) :
    mailOf c s.ledger.replies = [] := by
  have hsub := (hi.subperm_forwarded hk ha (.refl _)).subset
  have hne : ∀ d ∈ s.ledger.replies, d.1 ≠ c := by
    intro d hd
    obtain ⟨a, hmem, hdel⟩ := List.mem_filterMap.1 hd
    have hf := hsub (List.mem_map_of_mem hmem)
    obtain ⟨r, hreq, hdel', -⟩ := exists_reply (ha.valid a hmem) hf
    obtain ⟨f, hf, he⟩ := List.mem_map.1 hf
    obtain rfl : f = (r.client, r.payload) := request_injective (he.trans hreq.symm)
    obtain rfl := Option.some.inj (hdel.symm.trans hdel')
    exact hc _ hf
  rw [mailOf, List.map_eq_nil_iff, List.filter_eq_nil_iff]
  exact fun d hd => by simpa using hne d hd

/-- The pool tells the clients that are reached what it takes for them. -/
lemma Told.inside {p : Pool} (h : s.Told) (hm : s.pool.Inv P) (hp : s.pool.Step p) :
    Told { s with pool := p } where
  registered := h.registered
  heard c := by
    obtain ⟨-, ms, hrep, hdel⟩ := hp.tells hm c
    change mailOf c p.ledger.delivered <+: mailOf c p.ledger.replies
    rw [hrep, hdel]
    by_cases hc : s.exchange.registry.reaches c = true
    · have hsame : mailOf c s.pool.ledger.delivered = _ := h.reached c hc
      rw [if_pos hc]
      exact hsame ▸ List.prefix_rfl
    · rw [if_neg hc, List.append_nil]
      exact (h.heard c).trans (List.prefix_append _ _)
  reached c hc := by
    obtain ⟨hsame, ms, hrep, hdel⟩ := hp.tells hm c
    have hc : s.exchange.registry.reaches c = true := hsame ▸ hc
    change mailOf c p.ledger.delivered = mailOf c p.ledger.replies
    rw [hrep, hdel, if_pos hc]
    exact congrArg (· ++ ms) (h.reached c hc)
  collected c := by
    obtain ⟨-, ms, -, hdel⟩ := hp.tells hm c
    change mailOf c s.collected <+: mailOf c p.ledger.delivered
    rw [hdel]
    exact (h.collected c).trans (List.prefix_append _ _)

/-- A client that registers has been told nothing, and there has been nothing to tell. -/
lemma Told.reached_register (h : s.Told) (hi : s.Inv) (hk : s.pool.loop.Kept)
    (ha : Pool.Accounted P workers s.ledger) (hn : (s.links.map Link.client).Nodup)
    (hl : l ∈ s.links) (hs : l.stage = .counted) :
    mailOf l.client s.ledger.delivered = mailOf l.client s.ledger.replies := by
  -- no other connection has this client
  have hfresh : ∀ l₀ ∈ s.links, l₀.client = l.client → l₀.stage = .counted := by
    intro l₀ hl₀ hc
    obtain rfl := List.inj_on_of_nodup_map hn hl₀ hl hc
    exact hs
  have hnone : ∀ f ∈ s.forwarded, f.1 ≠ l.client := by
    intro f hf hc
    obtain ⟨l₀, hl₀, hc₀, hs₀⟩ := h.registered f hf
    exact hs₀ (hfresh l₀ hl₀ (hc₀.trans hc))
  rw [(hi.mailed.fresh _ hfresh).1, mailOf_replies_eq_nil hi hk ha hnone]

/-- Every step tells clients the answers to their requests. -/
lemma Step.told (st : s.Step s') (h : s.Told) (hi : s.Inv) (hm : s.pool.Inv P)
    (ha : Pool.Accounted P workers s.ledger) (hl : s.links.length < UInt64.size) : s'.Told := by
  -- only the pool tells clients something, and only a registration makes a client be reached
  cases st with
  | inside hp => exact h.inside hm hp
  | operate ho =>
    exact ⟨h.registered, h.heard, fun c hc => h.reached c (ho.registry ▸ hc), h.collected⟩
  | connect =>
    refine ⟨fun f hf => ?_, h.heard, h.reached, h.collected⟩
    obtain ⟨l, hl, hc⟩ := h.registered f hf
    exact ⟨l, List.mem_append_left _ hl, hc⟩
  | @register i l hli hs =>
    refine ⟨h.registered_set hli rfl nofun, h.heard, fun c hc => ?_, h.collected⟩
    by_cases he : c = l.client
    · subst he
      exact h.reached_register hi hm.kept ha (hi.numbered.nodup hl) (List.mem_of_getElem? hli) hs
    · exact h.reached c ((Registry.reaches_register_of_ne he).symm.trans hc)
  | @read i l bytes payloads kept hli hs hr =>
    have hc : (kept.getD l.connection).client = l.client := Connection.client_getD_takeBytes hr
    refine ⟨h.registered_set hli hc ?_, h.heard, h.reached, h.collected⟩
    dsimp only
    split <;> nofun
  | @pass i l payload rest hli hs ho hsent =>
    have hstage : l.stage ≠ .counted := LinkStage.Registered.ne_counted hs
    have hold : ∀ f ∈ s.forwarded, ∃ l₀ ∈ s.links.set i { l with outbox := rest },
        l₀.client = f.1 ∧ l₀.stage ≠ .counted := h.registered_set hli rfl hstage
    refine ⟨fun f hf => ?_, h.heard, h.reached, h.collected⟩
    obtain hf | hf := List.mem_append.1 hf
    · exact hold f hf
    · obtain rfl := List.mem_singleton.1 hf
      exact ⟨_, Mailed.mem_set_self hli, rfl, hstage⟩
  | @write i l m rest hli hs hbox =>
    have hc : ((l.connection.takeReply m).2.getD l.connection).client = l.client :=
      Connection.client_getD_takeReply ..
    refine ⟨h.registered_set hli hc ?_, h.heard,
      fun c hc => h.reached c (Registry.reaches_pop.symm.trans hc), fun c => ?_⟩
    · dsimp only
      split <;> nofun
    · change mailOf c (s.collected ++ [(l.client, m)]) <+: mailOf c s.ledger.delivered
      by_cases he : c = l.client
      · subst he
        rw [← hi.mailed.mailbox _ _ hbox, mailOf_append, mailOf_self]
        exact ⟨rest, by simp⟩
      · rw [mailOf_append, mailOf_of_ne he, List.append_nil]
        exact h.collected c
  | quit hli => exact ⟨h.registered_set hli rfl nofun, h.heard, h.reached, h.collected⟩
  | leave hli =>
    exact ⟨h.registered_set hli rfl nofun, h.heard,
      fun c hc => h.reached c (Registry.reaches_of_remove hc), h.collected⟩
  | hangUp hli =>
    exact ⟨h.registered_set hli rfl nofun, h.heard,
      fun c hc => h.reached c (Registry.reaches_of_hangUp hc), h.collected⟩

/-- In every run with fewer than 2⁶⁴ connections, clients are told the answers to their requests. -/
lemma Reachable.told (h : Reachable workers maxPending shared capacity frameLimit s)
    (hn : (workers.map (·.id)).Nodup) (hl : s.links.length < UInt64.size) : s.Told := by
  induction h with
  | start =>
    exact ⟨nofun, fun _ => List.prefix_rfl, fun _ _ => rfl, fun _ => List.prefix_rfl⟩
  | step hr st ih =>
    have hlt := st.length_links_le.trans_lt hl
    exact st.told (ih hlt) (hr.inv hlt) (hr.pool.manned hn) (hr.pool.accounted hn).2 hlt

end Hub

end Wayfinding
