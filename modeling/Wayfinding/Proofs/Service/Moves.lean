import Wayfinding.Proofs.Service.Hub
import Wayfinding.Proofs.Service.Work

/-!
# One connection at a time

Runs of the hub in which only one connection acts: it passes on all requests that it has read, takes
and writes all replies that are in its mailbox, or leaves for good.

Main definitions: `Hub.Moves`, `Hub.Moves.Writes`.
Main lemmas: `Hub.Moves.passAll`, `Hub.Moves.depart`, `Hub.Moves.writeReplies`.
-/

namespace Wayfinding

namespace Exchange.Wired

variable {e : Exchange}

/-- Passing on requests leaves everything wired. -/
lemma send (h : e.Wired) (m : Multipart) :
    Exchange.Wired { e with frontend := e.frontend.send m } where
  unlimited := (Channel.capacity_send ..).trans h.unlimited
  senderOpen := (Channel.senderOpen_send ..).trans h.senderOpen
  receiverOpen := (Channel.receiverOpen_send ..).trans h.receiverOpen
  boxes := h.boxes

/-- Sending requests leaves the wiring. -/
lemma sendAll (h : e.Wired) (ms : List Multipart) :
    Exchange.Wired { e with frontend := ms.foldl Channel.send e.frontend } := by
  induction ms generalizing e with
  | nil => exact h
  | cons m ms ih => exact ih (h.send m)

/-- A registry in which each client has one mailbox is as good as another. -/
lemma registry (h : e.Wired) {r : Registry} (hr : (r.mailboxes.map (·.1)).Nodup) :
    Exchange.Wired { e with registry := r } :=
  ⟨h.unlimited, h.senderOpen, h.receiverOpen, hr⟩

/-- Registering a client leaves the wiring. -/
lemma register (h : e.Wired) (c : ClientId) :
    Exchange.Wired { e with registry := e.registry.register c } := by
  refine h.registry ?_
  rw [Registry.register, List.map_append, List.nodup_append]
  refine ⟨h.boxes.sublist (List.filter_sublist.map _), List.nodup_singleton _, ?_⟩
  rintro _ hk _ hc rfl
  obtain ⟨box, hbox, rfl⟩ := List.mem_map.1 hk
  exact of_decide_eq_true (List.mem_filter.1 hbox).2 (List.mem_singleton.1 hc)

/-- A client that hangs up leaves the wiring. -/
lemma leave (h : e.Wired) (c : ClientId) :
    Exchange.Wired { e with registry := (e.registry.remove c).hangUp c } :=
  h.registry (h.boxes.sublist (List.filter_sublist.map _))

end Exchange.Wired

namespace Hub

/-- Some steps of a hub. -/
abbrev Run : Hub → Hub → Prop := Relation.ReflTransGen Step

/-- Steps of the pool are steps of its hub. -/
lemma Run.inside {h : Hub} {p : Pool} (hr : h.pool.Run p) : Run h { h with pool := p } := by
  induction hr with
  | refl => exact .refl
  | tail _ st ih => exact ih.tail (.inside st)

/-- A connection is opened and registers its mailbox. -/
lemma Run.enroll (h : Hub) : ∃ h', Run h h' ∧
    h'.pool = h.pool.withExchange
      { h.exchange with registry := h.exchange.registry.register ⟨h.nextClient⟩ } ∧
    h'.links = h.links ++ [{ h.nextLink with stage := .serving }] ∧
    h'.nextClient = h.nextClient + 1 ∧ h'.frameLimit = h.frameLimit := by
  let h₁ : Hub := { h with links := h.links ++ [h.nextLink], nextClient := h.nextClient + 1 }
  have hi : h₁.links[h.links.length]? = some h.nextLink := by simp [h₁]
  refine ⟨_, .tail (.single .connect) (.register hi rfl), rfl, ?_, rfl, rfl⟩
  show (h.links ++ [h.nextLink]).set h.links.length _ = _
  rw [List.set_append_right _ _ (Nat.le_refl _), Nat.sub_self]
  rfl

/-- Some steps of the connections, which lead to another exchange and other connections. -/
structure Moves (h h' : Hub) (e : Exchange) (links : List Link) : Prop where
  run : Run h h'
  pool : h'.pool = h.pool.withExchange e
  links : h'.links = links
  nextClient : h'.nextClient = h.nextClient
  frameLimit : h'.frameLimit = h.frameLimit

namespace Moves

variable {h h' h'' : Hub} {e e' : Exchange} {ls ls' : List Link} {i : Nat} {c : Connection}
  {outbox : List Frame} {stage : LinkStage}

/-- The connections may do nothing. -/
lemma refl (h : Hub) : Moves h h h.exchange h.links := ⟨.refl, rfl, rfl, rfl, rfl⟩

/-- Moves after other moves. -/
lemma trans (m : Moves h h' e ls) (m' : Moves h' h'' e' ls') : Moves h h'' e' ls' where
  run := m.run.trans m'.run
  pool := by rw [m'.pool, m.pool]; rfl
  links := m'.links
  nextClient := m'.nextClient.trans m.nextClient
  frameLimit := m'.frameLimit.trans m.frameLimit

/-- The exchange after moves. -/
lemma exchange (m : Moves h h' e ls) : h'.exchange = e := by
  rw [Hub.exchange, m.pool]
  rfl

/-- A connection that has moved is still found at its index. -/
lemma getElem?_set {l l' : Link} (m : Moves h h' e (h.links.set i l')) (hi : h.links[i]? = some l) :
    h'.links[i]? = some l' := by
  rw [m.links]
  exact List.getElem?_set_self (List.getElem?_eq_some_iff.1 hi).1

/-- Moves of a connection after other moves of the same one. -/
lemma set_trans {l l' : Link} (m : Moves h h' e (h.links.set i l))
    (m' : Moves h' h'' e' (h'.links.set i l')) : Moves h h'' e' (h.links.set i l') := by
  have ht := m.trans m'
  rwa [m.links, List.set_set] at ht

/-- A connection passes on all requests that it has read. -/
lemma passAll (hw : h.exchange.Wired) (hi : h.links[i]? = some ⟨c, outbox, stage⟩)
    (hs : stage = .serving ∨ stage = .closing) :
    ∃ h', Moves h h'
      { h.exchange with
        frontend := (outbox.map c.addressed).foldl Channel.send h.exchange.frontend }
      (h.links.set i ⟨c, [], stage⟩) := by
  induction outbox generalizing h with
  | nil =>
    obtain ⟨hlt, hself⟩ := List.getElem?_eq_some_iff.1 hi
    rw [← hself, List.set_getElem_self]
    exact ⟨h, refl h⟩
  | cons payload rest ih =>
    have m : Moves h _
        { h.exchange with frontend := h.exchange.frontend.send (c.addressed payload) }
        (h.links.set i ⟨c, rest, stage⟩) :=
      ⟨.single (.pass hi hs rfl hw.offer), rfl, rfl, rfl, rfl⟩
    obtain ⟨h', m'⟩ := ih (hw.send _) (m.getElem?_set hi)
    exact ⟨h', m.set_trans m'⟩

/-- A connection reads bytes and passes on the requests among them. -/
lemma read {bytes : List UInt8} {requests : List Multipart} {kept : Option Connection}
    (hw : h.exchange.Wired) (hi : h.links[i]? = some ⟨c, [], .serving⟩)
    (hr : c.takeBytes bytes = (requests, kept)) :
    ∃ h', Moves h h'
      { h.exchange with frontend := requests.foldl Channel.send h.exchange.frontend }
      (h.links.set i ⟨kept.getD c, [], if kept.isSome then .serving else .closing⟩) := by
  obtain ⟨payloads, kept', hp⟩ := c.exists_read bytes
  obtain ⟨rfl, rfl⟩ : requests = payloads.map c.addressed ∧ kept = kept' := by
    simpa using hr.symm.trans hp
  obtain ⟨h₁, m₁⟩ : ∃ h₁, Moves h h₁ h.exchange
      (h.links.set i ⟨kept.getD c, payloads, if kept.isSome then .serving else .closing⟩) :=
    ⟨_, .single (.read hi rfl hp), rfl, rfl, rfl, rfl⟩
  have hsame : (kept.getD c).addressed = c.addressed := by
    cases kept with
    | none => rfl
    | some c' =>
      have hc : c'.client = c.client := Connection.client_takeBytes hp
      funext payload
      rw [Option.getD_some, Connection.addressed, Connection.addressed, hc]
  have hstage : (if kept.isSome then LinkStage.serving else .closing) = .serving ∨
      (if kept.isSome then LinkStage.serving else .closing) = .closing := by
    cases kept with
    | none => exact .inr rfl
    | some => exact .inl rfl
  obtain ⟨h₂, m₂⟩ := passAll (m₁.exchange ▸ hw) (m₁.getElem?_set hi) hstage
  rw [hsame, m₁.exchange] at m₂
  exact ⟨h₂, m₁.set_trans m₂⟩

/-- A connection decides to read and write no more. -/
lemma quit (hi : h.links[i]? = some ⟨c, outbox, .serving⟩) :
    ∃ h', Moves h h' h.exchange (h.links.set i ⟨c, outbox, .closing⟩) :=
  ⟨_, .single (.quit hi rfl), rfl, rfl, rfl, rfl⟩

/-- A connection that reads and writes no more leaves. -/
lemma depart (hi : h.links[i]? = some ⟨c, outbox, .closing⟩) :
    ∃ h', Moves h h'
      { h.exchange with registry := (h.exchange.registry.remove c.client).hangUp c.client }
      (h.links.set i ⟨c, outbox, .gone⟩) := by
  have m : Moves h _ { h.exchange with registry := h.exchange.registry.remove c.client }
      (h.links.set i ⟨c, outbox, .left⟩) :=
    ⟨.single (.leave hi rfl), rfl, rfl, rfl, rfl⟩
  exact ⟨_, m.set_trans ⟨.single (.hangUp (m.getElem?_set hi) rfl), rfl, rfl, rfl, rfl⟩⟩

end Moves

end Hub

namespace Service

variable {s : Service} {p : Peer}

/-- Nothing is written to a peer that is not served. -/
lemma writeReplies_of_closed (hp : p.state = .closed) (ms : List Multipart) :
    s.writeReplies p ms = (s, p) := by
  cases ms with
  | nil => rfl
  | cons => simp only [writeReplies, hp]

end Service

namespace Hub.Moves

variable {h : Hub} {i : Nat} {c : Connection} {m : Multipart} {ms : List Multipart}

/-- A connection takes a reply and writes it, or cannot write it. -/
lemma writeOne {kept : Option Connection} (hi : h.links[i]? = some ⟨c, [], .serving⟩)
    (hm : h.exchange.registry.mailbox? c.client = some (m :: ms))
    (hk : (c.takeReply m).2 = kept) :
    ∃ h', Moves h h' { h.exchange with registry := h.exchange.registry.pop c.client }
      (h.links.set i ⟨kept.getD c, [], if kept.isSome then .serving else .closing⟩) := by
  subst hk
  exact ⟨_, .single (.write hi rfl hm), rfl, rfl, rfl, rfl⟩

/-- What the service has made of itself and a peer is what moves of a connection lead to. -/
def Writes (h : Hub) (i : Nat) (s : Service) (p : Peer) (r : Service × Peer) : Prop :=
  ∃ h' l e, Moves h h' e (h.links.set i l) ∧ e.Wired ∧ r.1 = s.withExchange (fun _ => e) ∧
    r.2.key = p.key ∧ ∀ c', r.2.state = .served c' → l = ⟨c', [], .serving⟩

/-- With an empty mailbox nothing is written. -/
lemma writes_nothing {s : Service} {p : Peer} (hw : h.exchange.Wired)
    (hi : h.links[i]? = some ⟨c, [], .serving⟩) (hp : p.state = .served c)
    (hs : s.exchange = h.exchange) : Writes h i s p (s, p) := by
  obtain ⟨hlt, hself⟩ := List.getElem?_eq_some_iff.1 hi
  refine ⟨h, ⟨c, [], .serving⟩, h.exchange, ?_, hw, ?_, rfl, ?_⟩
  · rw [← hself, List.set_getElem_self]
    exact refl h
  · rw [← hs]
    rfl
  · intro c' hc
    cases hp.symm.trans hc
    rfl

/-- A connection that cannot write a reply leaves, and whatever is left in its mailbox is gone. -/
lemma writes_leave {s : Service} {p q : Peer} (hw : h.exchange.Wired)
    (hi : h.links[i]? = some ⟨c, [], .closing⟩) (hk : q.key = p.key) (hq : q.state = .closed)
    (hs : s.exchange = { h.exchange with registry := h.exchange.registry.drain c.client }) :
    Writes h i s p (s.leave c.client, q) := by
  obtain ⟨h', m⟩ := depart hi
  refine ⟨h', _, _, m, hw.leave c.client, ?_, hk, ?_⟩
  · calc s.leave c.client
        = s.withExchange fun _ =>
            { s.exchange with
              registry := (s.exchange.registry.remove c.client).hangUp c.client } := rfl
      _ = s.withExchange fun _ =>
            { h.exchange with
              registry := (h.exchange.registry.remove c.client).hangUp c.client } := by
          rw [hs]
          simp only [Registry.leave_drain]
  · intro c' hc
    cases hq.symm.trans hc

/-- What is written after a move of the same connection is written after both. -/
lemma writes_trans {s : Service} {p q : Peer} {e : Exchange} {l : Link} {r : Service × Peer}
    {h' : Hub} (m : Moves h h' e (h.links.set i l)) (hk : q.key = p.key)
    (hw : Writes h' i s q r) : Writes h i s p r := by
  obtain ⟨h'', l', e', m', he, hr, hkey, hserved⟩ := hw
  exact ⟨h'', l', e', m.set_trans m', he, hr, hkey.trans hk, hserved⟩

/-- A connection takes and writes all replies that are in its mailbox, or leaves. -/
lemma writeReplies {s : Service} {p : Peer} (hw : h.exchange.Wired)
    (hi : h.links[i]? = some ⟨c, [], .serving⟩) (hp : p.state = .served c)
    (hms : (h.exchange.registry.mailbox? c.client).getD [] = ms)
    (hs : s.exchange = { h.exchange with registry := h.exchange.registry.drain c.client }) :
    Writes h i s p (s.writeReplies p ms) := by
  -- the service empties the mailbox at once, the connection takes one reply after the other
  induction ms generalizing h p c with
  | nil =>
    rw [Registry.drain_eq_self hw.boxes hms] at hs
    exact writes_nothing hw hi hp hs
  | cons m rest ih =>
    have hbox : h.exchange.registry.mailbox? c.client = some (m :: rest) := by
      cases hb : h.exchange.registry.mailbox? c.client with
      | none => simp [hb] at hms
      | some box => exact congrArg some (by simpa [hb] using hms)
    rcases hr : c.takeReply m with ⟨bytes, kept⟩
    obtain ⟨h₁, m₁⟩ := writeOne hi hbox (congrArg Prod.snd hr)
    have hkeys := (Registry.keys_map h.exchange.registry c.client List.tail).symm ▸ hw.boxes
    have hw₁ : h₁.exchange.Wired := m₁.exchange ▸ hw.registry hkeys
    have hi₁ := m₁.getElem?_set hi
    have hs₁ : s.exchange =
        { h₁.exchange with registry := h₁.exchange.registry.drain c.client } := by
      rw [hs, m₁.exchange, Registry.drain_pop]
    simp only [Service.writeReplies, hp, Service.writeReply, hr]
    cases kept with
    | some c' =>
      have hc : c'.client = c.client := Connection.client_takeReply (congrArg Prod.snd hr)
      have hms₁ : (h₁.exchange.registry.mailbox? c'.client).getD [] = rest := by
        rw [m₁.exchange, hc, Registry.mailbox?_pop, if_pos rfl, hbox]
        rfl
      exact writes_trans m₁ rfl (ih hw₁ hi₁ rfl hms₁ (hc ▸ hs₁))
    | none =>
      simp only [Service.writeReplies_of_closed]
      exact writes_trans m₁ rfl (writes_leave hw₁ hi₁ rfl rfl hs₁)

end Hub.Moves

end Wayfinding
