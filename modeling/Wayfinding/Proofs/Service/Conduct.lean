import Mathlib.Logic.Function.Basic
import Wayfinding.Proofs.Service.Moves

/-!
# What the service does

The service takes one input after the other, and between two inputs does everything that can be
done. Each thing that it does is done by some steps of a hub, in which each peer that is served has
a connection of its own.

Main definition: `Hub.Mirrors`.
Main lemmas: `Hub.Mirrors.takeFrom`, `Hub.Mirrors.flushPeer`, `Hub.Mirrors.settle`,
`Hub.Mirrors.accept`.
-/

namespace Wayfinding

/-- A peer that is served. -/
def Peer.Served (p : Peer) : Prop := ∃ c, p.state = .served c

/-! ### Peers -/

namespace Service

variable {s : Service} {p q : Peer} {key : Nat}

/-- Replacing a peer leaves the keys. -/
lemma keys_setPeer (s : Service) (p : Peer) :
    (s.setPeer p).peers.map Peer.key = s.peers.map Peer.key := by
  show (s.peers.map _).map Peer.key = _
  rw [List.map_map]
  refine List.map_congr_left fun other _ => ?_
  by_cases ho : other.key = p.key <;> simp [ho]

/-- Who is there when a peer was replaced. -/
lemma eq_or_mem_of_mem_setPeer (h : q ∈ (s.setPeer p).peers) :
    q = p ∨ q ∈ s.peers ∧ q.key ≠ p.key := by
  obtain ⟨other, hother, rfl⟩ := List.mem_map.1 h
  by_cases ho : other.key = p.key
  · exact .inl (if_pos ho)
  · rw [if_neg ho]
    exact .inr ⟨hother, ho⟩

/-- A peer that is found has the key that was looked for. -/
lemma peer?_eq_some (h : s.peer? key = some p) : p ∈ s.peers ∧ p.key = key :=
  ⟨List.mem_of_find?_eq_some h, by simpa using List.find?_some h⟩

/-- The work of the broker and the workers does not concern the peers. -/
lemma work_frame (count : Nat) (s : Service) :
    (s.work count).peers = s.peers ∧ (s.work count).nextClient = s.nextClient ∧
      (s.work count).frameLimit = s.frameLimit := by
  induction count generalizing s with
  | zero => exact ⟨rfl, rfl, rfl⟩
  | succ count ih =>
    unfold work
    dsimp only
    split
    · next w m rest _ =>
      obtain ⟨hp, hn, hf⟩ := ih (Service.perform _ w m rest)
      rw [hp, hn, hf]
      simp only [perform]
      split <;> exact ⟨rfl, rfl, rfl⟩
    · exact ⟨rfl, rfl, rfl⟩

end Service

/-! ### Hubs that mirror the service -/

namespace Hub

/-- A hub that does what the service does: the peers that are served have connections of their own,
whose indices are given. -/
structure Mirrors (h : Hub) (s : Service) (place : Nat → Nat) : Prop where
  pool : h.pool.Reflects s
  nextClient : h.nextClient = s.nextClient
  frameLimit : h.frameLimit = s.frameLimit
  keys : (s.peers.map Peer.key).Nodup
  served : ∀ p ∈ s.peers, ∀ c, p.state = .served c →
    h.links[place p.key]? = some ⟨c, [], .serving⟩
  apart : ∀ p ∈ s.peers, ∀ q ∈ s.peers, p.Served → q.Served → place p.key = place q.key →
    p.key = q.key

namespace Mirrors

variable {h h' : Hub} {s : Service} {place : Nat → Nat} {p q : Peer} {c : Connection}
  {bytes : List UInt8} {key : Nat}

/-- Places stay apart when a peer is replaced that is not served anew. -/
lemma apart_setPeer (hm : h.Mirrors s place) (hq : q ∈ s.peers) (hk : p.key = q.key)
    (hs : p.Served → q.Served) : ∀ u ∈ (s.setPeer p).peers, ∀ v ∈ (s.setPeer p).peers,
      u.Served → v.Served → place u.key = place v.key → u.key = v.key := by
  have hbefore : ∀ u ∈ (s.setPeer p).peers, u.Served →
      ∃ u' ∈ s.peers, u'.Served ∧ u'.key = u.key := by
    intro u hu hserved
    rcases Service.eq_or_mem_of_mem_setPeer hu with rfl | ⟨hu', -⟩
    · exact ⟨q, hq, hs hserved, hk.symm⟩
    · exact ⟨u, hu', hserved, rfl⟩
  intro u hu v hv hus hvs hp
  obtain ⟨u', hu', hus', hku⟩ := hbefore u hu hus
  obtain ⟨v', hv', hvs', hkv⟩ := hbefore v hv hvs
  rw [← hku, ← hkv] at hp ⊢
  exact hm.apart u' hu' v' hv' hus' hvs' hp

/-- What has been written by or to a peer does not matter, as long as it is not served anew. -/
lemma setPeer (hm : h.Mirrors s place) (hq : q ∈ s.peers) (hk : p.key = q.key)
    (hs : ∀ c, p.state = .served c → q.state = .served c) : h.Mirrors (s.setPeer p) place := by
  refine ⟨?_, hm.nextClient, hm.frameLimit, ?_, ?_, ?_⟩
  · obtain ⟨he, hst, ht, hsh, hw, hne, hp, hb⟩ := hm.pool
    exact ⟨he, hst, ht, hsh, hw, hne, hp, hb⟩
  · rw [Service.keys_setPeer]
    exact hm.keys
  · intro u hu c hc
    rcases Service.eq_or_mem_of_mem_setPeer hu with rfl | ⟨hu, -⟩
    · rw [hk]
      exact hm.served q hq c (hs c hc)
    · exact hm.served u hu c hc
  · exact hm.apart_setPeer hq hk fun ⟨c, hc⟩ => ⟨c, hs c hc⟩

/-- The connection of one peer has moved. -/
lemma move {e : Exchange} {l : Link} (hm : h.Mirrors s place) (hq : q ∈ s.peers)
    (hc : q.state = .served c) (hk : p.key = q.key)
    (m : Moves h h' e (h.links.set (place q.key) l)) (he : e.Wired)
    (hl : ∀ c', p.state = .served c' → l = ⟨c', [], .serving⟩) :
    h'.Mirrors ((s.withExchange fun _ => e).setPeer p) place := by
  have hi := hm.served q hq c hc
  refine ⟨?_, m.nextClient.trans hm.nextClient, m.frameLimit.trans hm.frameLimit, ?_, ?_, ?_⟩
  · obtain ⟨-, hst, ht, hsh, -, hne, hp, hb⟩ := hm.pool
    have hpool := m.pool
    exact ⟨m.exchange, hpool ▸ hst, hpool ▸ ht, hpool ▸ hsh, he, hne, hp, hb⟩
  · rw [Service.keys_setPeer]
    exact hm.keys
  · intro u hu c' hc'
    rcases Service.eq_or_mem_of_mem_setPeer hu with rfl | ⟨hu, hne⟩
    · rw [hk, m.getElem?_set hi, hl c' hc']
    · -- the connections of the other peers are elsewhere
      have hplace : place q.key ≠ place u.key := by
        intro heq
        exact hne (hk ▸ (hm.apart q hq u hu ⟨c, hc⟩ ⟨c', hc'⟩ heq).symm)
      rw [m.links, List.getElem?_set_ne hplace]
      exact hm.served u hu c' hc'
  · exact hm.apart_setPeer hq hk fun _ => ⟨c, hc⟩

/-- The connection of a peer that reads and writes no more leaves. -/
lemma close {e : Exchange} {c' : Connection} (hm : h.Mirrors s place) (hq : q ∈ s.peers)
    (hc : q.state = .served c) (hk : p.key = q.key)
    (m : Moves h h' e (h.links.set (place q.key) ⟨c', [], .closing⟩)) (he : e.Wired) :
    ∃ h'', Run h h'' ∧ h''.Mirrors ((s.withExchange fun _ => e).closePeer p c') place := by
  obtain ⟨h'', m'⟩ := Moves.depart (m.getElem?_set (hm.served q hq c hc))
  rw [m.exchange] at m'
  have ht := m.set_trans m'
  have hk' : ({ p with state := .closed } : Peer).key = q.key := hk
  exact ⟨h'', ht.run, hm.move hq hc hk' ht (he.leave c'.client) nofun⟩

/-- The service takes bytes from a peer. -/
lemma takeFrom (hm : h.Mirrors s place) (hq : q ∈ s.peers) (hc : q.state = .served c)
    (hk : p.key = q.key) (bytes : List UInt8) :
    ∃ h', Run h h' ∧ h'.Mirrors (s.takeFrom p c bytes) place := by
  have hi := hm.served q hq c hc
  have hex : h.exchange = s.exchange := hm.pool.exchange
  have hw : h.exchange.Wired := hex ▸ hm.pool.wired
  rcases hr : c.takeBytes bytes with ⟨requests, kept⟩
  obtain ⟨h₁, m₁⟩ := Moves.read hw hi hr
  have hw₁ := hw.sendAll requests
  have hforward : s.forward requests = s.withExchange fun _ =>
      { h.exchange with frontend := requests.foldl Channel.send h.exchange.frontend } := by
    rw [hex]
    rfl
  simp only [Service.takeFrom, hr, hforward]
  cases kept with
  | none => exact hm.close hq hc hk m₁ hw₁
  | some c' =>
    dsimp only
    split
    · obtain ⟨h₂, m₂⟩ := Moves.quit (m₁.getElem?_set hi)
      rw [m₁.exchange] at m₂
      exact hm.close hq hc hk (m₁.set_trans m₂) hw₁
    · refine ⟨h₁, m₁.run, hm.move (p := { p with state := .served c' }) hq hc hk m₁ hw₁ ?_⟩
      rintro _ ⟨⟩
      rfl

/-- The service writes the replies that are in the mailbox of a peer. -/
lemma flushPeer (hm : h.Mirrors s place) (key : Nat) :
    ∃ h', Run h h' ∧ h'.Mirrors (s.flushPeer key) place := by
  unfold Service.flushPeer
  split
  · exact ⟨h, .refl, hm⟩
  · next p hp =>
    obtain ⟨hmem, -⟩ := Service.peer?_eq_some hp
    split
    · next c hc =>
      have hex : h.exchange = s.exchange := hm.pool.exchange
      have hw : h.exchange.Wired := hex ▸ hm.pool.wired
      obtain ⟨h', l, e, m, he, hfst, hkey, hl⟩ := Moves.writeReplies
        (s := s.withExchange fun e => { e with registry := e.registry.drain c.client })
        hw (hm.served p hmem c hc) hc rfl (by rw [hex]; rfl)
      rw [hex] at hfst hkey hl
      rcases hr : Service.writeReplies
        (s.withExchange fun e => { e with registry := e.registry.drain c.client }) p
        ((s.exchange.registry.mailbox? c.client).getD []) with ⟨s', p'⟩
      rw [hr] at hfst hkey hl
      obtain rfl : s' = _ := hfst
      simp only [hr]
      exact ⟨h', m.run, hm.move hmem hc hkey m he hl⟩
    · exact ⟨h, .refl, hm⟩

/-- The service writes the replies that are in the mailboxes of some peers. -/
lemma flushPeers (hm : h.Mirrors s place) (keys : List Nat) :
    ∃ h', Run h h' ∧ h'.Mirrors (keys.foldl Service.flushPeer s) place := by
  induction keys generalizing h s with
  | nil => exact ⟨h, .refl, hm⟩
  | cons key keys ih =>
    obtain ⟨h₁, hr₁, hm₁⟩ := hm.flushPeer key
    obtain ⟨h₂, hr₂, hm₂⟩ := ih hm₁
    exact ⟨h₂, hr₁.trans hr₂, hm₂⟩

/-- The broker and the workers do what they can. -/
lemma work (hm : h.Mirrors s place) (hi : h.pool.Inv fun _ => True) (count : Nat) :
    ∃ h', Run h h' ∧ h'.Mirrors (s.work count) place := by
  obtain ⟨p, hr, hp⟩ := hm.pool.work hi count
  -- the connections wait meanwhile
  obtain ⟨hpeers, hnext, hlimit⟩ := s.work_frame count
  refine ⟨{ h with pool := p }, .inside hr, hp, ?_, ?_, ?_, ?_, ?_⟩
  · rw [hnext]
    exact hm.nextClient
  · rw [hlimit]
    exact hm.frameLimit
  · rw [hpeers]
    exact hm.keys
  · rw [hpeers]
    exact hm.served
  · rw [hpeers]
    exact hm.apart

/-- The service does everything that can be done. -/
lemma settle (hm : h.Mirrors s place) (hi : h.pool.Inv fun _ => True) :
    ∃ h', Run h h' ∧ h'.Mirrors s.settle place := by
  obtain ⟨h₁, hr₁, hm₁⟩ := hm.work hi s.outstanding
  obtain ⟨h₂, hr₂, hm₂⟩ := hm₁.flushPeers ((s.work s.outstanding).peers.map (·.key))
  exact ⟨h₂, hr₁.trans hr₂, hm₂⟩

/-- Some time passes. -/
lemma pass (hm : h.Mirrors s place) (milliseconds : Nat) :
    ∃ h', Run h h' ∧
      h'.Mirrors { s with supervision := s.supervision.pass milliseconds } place := by
  obtain ⟨p, hr, hp⟩ := hm.pool.pass milliseconds
  exact ⟨{ h with pool := p }, .inside hr, hp, hm.nextClient, hm.frameLimit, hm.keys, hm.served,
    hm.apart⟩

/-- A connection for a peer that has waited, with a place of its own. -/
lemma enroll (hm : h.Mirrors s place) (hk : q.key = p.key)
    (hc : q.state = .served ⟨⟨s.nextClient⟩, s.frameLimit, []⟩) :
    ∃ h' place', Run h h' ∧ h'.Mirrors
      (({ s with nextClient := s.nextClient + 1 }.withExchange fun e =>
        { e with registry := e.registry.register ⟨s.nextClient⟩ }).setPeer q) place' := by
  obtain ⟨h', hr, hpool, hlinks, hnext, hlimit⟩ := Run.enroll h
  have hex : h.exchange = s.exchange := hm.pool.exchange
  rw [hm.nextClient] at hpool hnext
  -- the connections that there were keep their indices
  have hlt : ∀ u ∈ s.peers, u.Served → place u.key < h.links.length := by
    rintro u hu ⟨c, hc⟩
    exact (List.getElem?_eq_some_iff.1 (hm.served u hu c hc)).1
  refine ⟨h', Function.update place p.key h.links.length, hr, ?_, hnext, ?_, ?_, ?_, ?_⟩
  · obtain ⟨-, hst, ht, hsh, hwired, hne, hp, hb⟩ := hm.pool
    refine ⟨?_, hpool ▸ hst, hpool ▸ ht, hpool ▸ hsh, hwired.register _, hne, hp, hb⟩
    rw [hpool, hex]
    rfl
  · exact hlimit.trans hm.frameLimit
  · rw [Service.keys_setPeer]
    exact hm.keys
  · intro u hu c hc'
    rcases Service.eq_or_mem_of_mem_setPeer hu with rfl | ⟨hu', hne⟩
    · cases hc.symm.trans hc'
      rw [hk, Function.update_self, hlinks, List.getElem?_append_right (Nat.le_refl _),
        Nat.sub_self, Hub.nextLink, hm.nextClient, hm.frameLimit]
      rfl
    · have hi := hm.served u hu' c hc'
      rw [Function.update_of_ne (hk ▸ hne), hlinks, List.getElem?_append_left (hlt u hu' ⟨c, hc'⟩)]
      exact hi
  · intro u hu v hv hus hvs heq
    rcases Service.eq_or_mem_of_mem_setPeer hu with hu' | ⟨hu', hne⟩ <;>
      rcases Service.eq_or_mem_of_mem_setPeer hv with hv' | ⟨hv', hne'⟩
    · rw [hu', hv']
    · rw [hu', hk, Function.update_self, Function.update_of_ne (hk ▸ hne')] at heq
      exact absurd heq.symm (Nat.ne_of_lt (hlt v hv' hvs))
    · rw [hv', hk, Function.update_self, Function.update_of_ne (hk ▸ hne)] at heq
      exact absurd heq (Nat.ne_of_lt (hlt u hu' hus))
    · rw [Function.update_of_ne (hk ▸ hne), Function.update_of_ne (hk ▸ hne')] at heq
      exact hm.apart u hu' v hv' hus hvs heq

/-- The service serves a peer that has waited. -/
lemma accept (hm : h.Mirrors s place) (hp : p ∈ s.peers) :
    ∃ h' place', Run h h' ∧ h'.Mirrors (s.accept p) place' := by
  let c : Connection := { client := ⟨s.nextClient⟩, frameLimit := s.frameLimit }
  let q : Peer := { p with state := .served c, written := [] }
  obtain ⟨h₁, place', hr₁, hm₁⟩ := hm.enroll (p := p) (q := q) rfl rfl
  have hq : q ∈ (({ s with nextClient := s.nextClient + 1 }.withExchange fun e =>
      { e with registry := e.registry.register ⟨s.nextClient⟩ }).setPeer q).peers :=
    List.mem_map.2 ⟨p, hp, if_pos rfl⟩
  obtain ⟨h₂, hr₂, hm₂⟩ := hm₁.takeFrom hq rfl rfl p.written
  exact ⟨h₂, place', hr₁.trans hr₂, hm₂⟩

/-- A peer comes that was not there. -/
lemma join (hm : h.Mirrors s place) (hk : s.peer? key = none) :
    h.Mirrors { s with peers := s.peers ++ [{ key := key }] } place := by
  have hkey : key ∉ s.peers.map Peer.key := by
    intro hmem
    obtain ⟨p, hp, rfl⟩ := List.mem_map.1 hmem
    have hne : p.key ≠ p.key := by simpa using List.find?_eq_none.1 hk p hp
    exact hne rfl
  have hold : ∀ p ∈ s.peers ++ [{ key := key }], p.Served → p ∈ s.peers := by
    intro p hp hs
    rcases List.mem_append.1 hp with hp | hp
    · exact hp
    · obtain ⟨c, hc⟩ := hs
      rw [List.mem_singleton.1 hp] at hc
      cases hc
  refine ⟨?_, hm.nextClient, hm.frameLimit, ?_, ?_, ?_⟩
  · obtain ⟨he, hst, ht, hsh, hw, hne, hp, hb⟩ := hm.pool
    exact ⟨he, hst, ht, hsh, hw, hne, hp, hb⟩
  · rw [List.map_append, List.nodup_append]
    refine ⟨hm.keys, List.nodup_singleton _, ?_⟩
    rintro k hk' _ hk'' rfl
    rw [List.mem_singleton.1 hk''] at hk'
    exact hkey hk'
  · intro p hp c hc
    exact hm.served p (hold p hp ⟨c, hc⟩) c hc
  · intro p hp q hq hps hqs
    exact hm.apart p (hold p hp hps) q (hold q hq hqs) hps hqs

/-- A peer is forgotten. -/
lemma forget (hm : h.Mirrors s place) (key : Nat) : h.Mirrors (s.forget key) place := by
  have hsub : (s.forget key).peers.Sublist s.peers := List.filter_sublist
  refine ⟨?_, hm.nextClient, hm.frameLimit, hm.keys.sublist (hsub.map _), ?_, ?_⟩
  · obtain ⟨he, hst, ht, hsh, hw, hne, hp, hb⟩ := hm.pool
    exact ⟨he, hst, ht, hsh, hw, hne, hp, hb⟩
  · intro p hp
    exact hm.served p (hsub.subset hp)
  · intro p hp q hq
    exact hm.apart p (hsub.subset hp) q (hsub.subset hq)

/-- The operator interrupts the broker or announces the shutdown. -/
lemma operate {f : Exchange → Exchange} (hm : h.Mirrors s place) (ho : ∀ e, Operates e (f e))
    (hf : ∀ e, (f e).frontend = e.frontend) :
    ∃ h', Run h h' ∧ h'.Mirrors (s.withExchange f) place := by
  have st : Step h { h with pool := h.pool.withExchange (f h.exchange) } := .operate (ho _)
  have hex : h.exchange = s.exchange := hm.pool.exchange
  refine ⟨_, .single st, ?_, hm.nextClient, hm.frameLimit, hm.keys, hm.served, hm.apart⟩
  obtain ⟨-, hst, ht, hsh, hw, hne, hp, hb⟩ := hm.pool
  have hfront := hf s.exchange
  have hreg := (ho s.exchange).registry
  refine ⟨congrArg f hex, hst, ht, hsh, ⟨?_, ?_, ?_, ?_⟩, hne, hp, hb⟩
  · exact (congrArg Channel.capacity hfront).trans hw.unlimited
  · exact (congrArg Channel.senderOpen hfront).trans hw.senderOpen
  · exact (congrArg Channel.receiverOpen hfront).trans hw.receiverOpen
  · exact hreg.symm ▸ hw.boxes

end Mirrors

end Hub

end Wayfinding
