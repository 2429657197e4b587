import Wayfinding.Proofs.Service.Replies
import Wayfinding.Service.Admission

/-!
# Slots, the count and the registry

The hub behind the acceptor that lets its clients in. Each connection holds a slot from its arrival
until it has ended, is counted while it has a number, and is in the registry while it is served.
These are kept apart and change at different moments of a connection; whatever connections do, and
in whatever way they end, none of them is lost or kept too long.

Main definitions: `Lobby`, `Lobby.Step`, `Lobby.Exact`.
Main statement: `Lobby.Reachable.exact`.
-/

namespace Wayfinding

/-! ### The acceptor -/

/-- Whether a connection has a number and is counted. -/
def Guest.isCounted (g : Guest) : Bool := g.client?.isSome

namespace Admission

variable {s t : Admission} {g g' : Guest} {i : Nat}

/-- The connections that are counted and registered are those that say so. -/
structure Inv (s : Admission) : Prop where
  counted : s.tally.active = s.guests.countP Guest.isCounted
  nodup : s.registry.connected.Nodup
  registered : ∀ c ∈ s.registry.connected, Guest.registered c ∈ s.guests

/-- One connection goes on, and with it the count and the registry. -/
lemma Inv.set (h : s.Inv) (hi : s.guests[i]? = some g) (hg : t.guests = s.guests.set i g')
    (hc : t.tally.active + g.isCounted.toNat = s.tally.active + g'.isCounted.toNat)
    (hn : t.registry.connected.Nodup)
    (hr : ∀ c ∈ t.registry.connected,
      g' = .registered c ∨ c ∈ s.registry.connected ∧ g ≠ .registered c) : t.Inv where
  counted := by
    have hadd := countP_set_add Guest.isCounted hi g'
    have hs := h.counted
    rw [hg]
    omega
  nodup := hn
  registered c hmem := by
    rw [hg]
    rcases hr c hmem with rfl | ⟨hold, hne⟩
    · exact List.mem_set (List.getElem?_eq_some_iff.1 hi).1 _
    · exact mem_set_of_ne hi (h.registered c hold) hne.symm

/-- A client is registered once. -/
lemma nodup_register {r : Registry} (h : r.connected.Nodup) (c : ClientId) :
    (r.register c).connected.Nodup := by
  simp only [Registry.register]
  split
  · exact h
  · next hc => exact h.append (List.nodup_singleton c) (by simpa using hc)

/-- Whatever a connection does next, the count and the registry follow it. -/
lemma Inv.advance (h : s.Inv) (hi : s.guests[i]? = some g) : (s.advance i g).Inv := by
  cases g with
  | accepted => exact h.set hi rfl rfl h.nodup fun c hc => .inr ⟨hc, nofun⟩
  | counted c =>
    refine h.set hi rfl rfl (nodup_register h.nodup c) fun c' hc' => ?_
    rcases Registry.mem_connected_register.1 hc' with rfl | hc'
    · exact .inl rfl
    · exact .inr ⟨hc', nofun⟩
  | registered c =>
    refine h.set hi rfl rfl (h.nodup.filter _) fun c' hc' => ?_
    obtain ⟨hc', hne⟩ := Registry.mem_connected_remove.1 hc'
    exact .inr ⟨hc', fun he => hne (Guest.registered.inj he).symm⟩
  | removed c =>
    refine h.set hi rfl ?_ h.nodup fun c' hc' => .inr ⟨hc', nofun⟩
    have hpos : 0 < s.tally.active := by
      rw [h.counted]
      exact List.countP_pos_iff.2 ⟨_, List.mem_of_getElem? hi, rfl⟩
    show s.tally.active - 1 + 1 = s.tally.active + 0
    omega
  | departed =>
    have hothers := cons_eraseIdx_perm hi
    refine ⟨h.counted.trans (hothers.countP_eq Guest.isCounted).symm, h.nodup, fun c hc => ?_⟩
    rcases List.mem_cons.1 (hothers.mem_iff.2 (h.registered c hc)) with he | he
    · cases he
    · exact he

/-- At the door, slots are taken and given back, and connections arrive; nothing else changes. -/
lemma step?_door {e : Event} (he : s.step? e = some t) (hd : ∀ j, e ≠ .advance j) :
    (t.guests = s.guests ∨ t.guests = s.guests ++ [.accepted]) ∧ t.tally = s.tally ∧
      t.registry = s.registry ∧ t.nextClient = s.nextClient := by
  cases e with
  | reserve =>
    obtain ⟨-, ht⟩ := Option.ite_none_right_eq_some.1 he
    cases ht
    exact ⟨.inl rfl, rfl, rfl, rfl⟩
  | arrive =>
    obtain ⟨-, ht⟩ := Option.ite_none_right_eq_some.1 he
    cases ht
    exact ⟨.inr rfl, rfl, rfl, rfl⟩
  | abandon =>
    obtain ⟨-, ht⟩ := Option.ite_none_right_eq_some.1 he
    cases ht
    exact ⟨.inl rfl, rfl, rfl, rfl⟩
  | advance j => exact absurd rfl (hd j)

/-- In every run, the count and the registry are those of the connections. -/
lemma Reachable.inv {slots : Nat} (h : Reachable slots s) : s.Inv := by
  induction h with
  | start => exact ⟨rfl, .nil, nofun⟩
  | @step s t e _ he ih =>
    by_cases hadv : ∃ j, e = .advance j
    · obtain ⟨j, rfl⟩ := hadv
      obtain ⟨g, hg, rfl⟩ := Option.map_eq_some_iff.1 he
      exact ih.advance hg
    · obtain ⟨hg, ht, hr, -⟩ := step?_door he fun j hj => hadv ⟨j, hj⟩
      refine ⟨?_, hr ▸ ih.nodup, fun c hc => ?_⟩
      · rw [ht, ih.counted]
        rcases hg with hg | hg
        · rw [hg]
        · rw [hg, List.countP_append]
          rfl
      · have hold := ih.registered c (hr ▸ hc)
        rcases hg with hg | hg
        · rwa [hg]
        · rw [hg]
          exact List.mem_append_left _ hold

/-- Each registered client is counted. -/
lemma Inv.length_connected_le (h : s.Inv) : s.registry.connected.length ≤ s.tally.active := by
  have hnodup : (s.registry.connected.map Guest.registered).Nodup :=
    h.nodup.map fun _ _ => Guest.registered.inj
  have hsub : s.registry.connected.map Guest.registered ⊆ s.guests.filter Guest.isCounted := by
    intro g hg
    obtain ⟨c, hc, rfl⟩ := List.mem_map.1 hg
    exact List.mem_filter.2 ⟨h.registered c hc, rfl⟩
  have hle := (hnodup.subperm hsub).length_le
  rwa [List.length_map, ← List.countP_eq_length_filter, ← h.counted] at hle

/-- Each counted connection holds a slot. -/
lemma Inv.active_le_held (h : s.Inv) : s.tally.active ≤ s.held := by
  rw [h.counted, held]
  exact List.countP_le_length.trans (Nat.le_add_right ..)

end Admission

/-! ### The hub behind it -/

/-- A connection as the acceptor sees it. -/
def Link.guest (l : Link) : Guest :=
  match l.stage with
  | .counted => .counted l.client
  | .serving | .closing => .registered l.client
  | .left => .removed l.client
  | .gone => .departed

/-- A connection that reads and writes, or is about to leave, is registered. -/
lemma Link.guest_of_registered {l : Link} (h : l.stage.Registered) :
    l.guest = .registered l.client := by
  unfold Link.guest
  rcases h with h | h <;> rw [h]

/-- A guest that is registered is a link with a mailbox. -/
lemma Link.registered_of_guest {l : Link} {c : ClientId} (h : l.guest = .registered c) :
    l.client = c ∧ l.stage.Registered := by
  unfold Link.guest at h
  split at h
  · cases h
  · next hs => exact ⟨Guest.registered.inj h, .inl hs⟩
  · next hs => exact ⟨Guest.registered.inj h, .inr hs⟩
  · cases h
  · cases h

/-- A connection is counted until it is gone. -/
lemma Link.isCounted_guest (l : Link) : l.guest.isCounted = decide (l.stage ≠ .gone) := by
  unfold Link.guest
  split <;> next hs => rw [hs]; rfl

/-- All connections of a hub as the acceptor sees them. -/
def Hub.roster (s : Hub) : List Guest := s.links.map Link.guest

/-- The hub and its acceptor. -/
structure Lobby where
  hub : Hub
  gate : Admission

namespace Lobby

/-- The steps of the hub, its acceptor and the connections between them. Of what a connection does
in the hub, the acceptor sees when it registers, leaves and hangs up. -/
inductive Step (s : Lobby) : Lobby → Prop where
  | door {e g} :
    (∀ j, e ≠ .advance j) →
    s.gate.step? e = some g →
    Step s { s with gate := g }
  | connect {j} :
    s.gate.guests[j]? = some .accepted →
    Step s
      { hub := { s.hub with
          links := s.hub.links ++ [s.hub.nextLink], nextClient := s.hub.nextClient + 1 }
        gate := s.gate.advance j .accepted }
  | serve {h} :
    s.hub.Step h →
    h.roster = s.hub.roster →
    Step s { s with hub := h }
  | follow {h : Hub} {i j : Nat} {l l' : Link} :
    s.hub.Step h →
    s.hub.links[i]? = some l →
    h.links[i]? = some l' →
    l'.guest ≠ l.guest →
    s.gate.guests[j]? = some l.guest →
    Step s { hub := h, gate := s.gate.advance j l.guest }
  | release {j} :
    s.gate.guests[j]? = some .departed →
    Step s { s with gate := s.gate.advance j .departed }

/-- The states of runs. -/
inductive Reachable (workers : List Worker) (maxPending : Nat) (shared : Shared)
    (capacity : Option Nat) (frameLimit slots : Nat) : Lobby → Prop where
  | start :
    Reachable workers maxPending shared capacity frameLimit slots
      { hub := .start workers maxPending shared capacity frameLimit, gate := { free := slots } }
  | step {s s'} :
    Reachable workers maxPending shared capacity frameLimit slots s →
    Step s s' →
    Reachable workers maxPending shared capacity frameLimit slots s'

variable {workers : List Worker} {maxPending : Nat} {shared : Shared} {capacity : Option Nat}
  {frameLimit slots : Nat} {s : Lobby}

/-- A lobby does with its hub what can be done with any hub. -/
lemma Reachable.hub (h : Reachable workers maxPending shared capacity frameLimit slots s) :
    Hub.Reachable workers maxPending shared capacity frameLimit s.hub := by
  induction h with
  | start => exact .start
  | step _ st ih =>
    cases st with
    | door => exact ih
    | connect => exact ih.step .connect
    | serve hh => exact ih.step hh
    | follow hh => exact ih.step hh
    | release => exact ih

/-- The admission goes through a run of its own. -/
lemma Reachable.gate (h : Reachable workers maxPending shared capacity frameLimit slots s) :
    Admission.Reachable slots s.gate := by
  induction h with
  | start => exact .start
  | step _ st ih =>
    cases st with
    | door _ he => exact ih.step he
    | connect hj => exact ih.step (e := .advance _) (Option.map_eq_some_iff.2 ⟨_, hj, rfl⟩)
    | serve => exact ih
    | follow _ _ _ _ hj => exact ih.step (e := .advance _) (Option.map_eq_some_iff.2 ⟨_, hj, rfl⟩)
    | release hj => exact ih.step (e := .advance _) (Option.map_eq_some_iff.2 ⟨_, hj, rfl⟩)

end Lobby

/-! ### What a step of the hub means at the gate -/

/-- What becomes of a connection that has its number, and of the registered clients. -/
inductive Guest.Moves (r : Registry) : Guest → Guest → Registry → Prop where
  | register (c : ClientId) : Moves r (.counted c) (.registered c) (r.register c)
  | remove (c : ClientId) : Moves r (.registered c) (.removed c) (r.remove c)
  | hangUp (c : ClientId) : Moves r (.removed c) .departed (r.hangUp c)

/-- Who moves does not stay where they were. -/
lemma Guest.Moves.ne {r r' : Registry} {g g' : Guest} (h : g.Moves r g' r') : g' ≠ g := by
  cases h <;> nofun

/-- Who moves was counted before. -/
lemma Guest.Moves.isCounted {r r' : Registry} {g g' : Guest} (h : g.Moves r g' r') :
    g.isCounted = true := by
  cases h <;> rfl

namespace Hub

variable {s s' : Hub} {l l' : Link} {i : Nat}

/-- How the connections of a hub and its registry have changed, as the acceptor sees it. -/
inductive Shift (s s' : Hub) : Prop where
  | none :
    s'.roster = s.roster →
    s'.nextClient = s.nextClient →
    s'.exchange.registry.connected = s.exchange.registry.connected →
    Shift s s'
  | opened :
    s'.links = s.links ++ [s.nextLink] →
    Shift s s'
  | moved {i : Nat} {l l' : Link} :
    s.links[i]? = some l →
    s'.links = s.links.set i l' →
    s'.nextClient = s.nextClient →
    l.guest.Moves s.exchange.registry l'.guest s'.exchange.registry →
    Shift s s'

/-- A step of the hub opens a connection, or one of them registers, leaves or hangs up, or all look
as before. -/
lemma Step.shift (st : s.Step s') : s.Shift s' := by
  cases st with
  | inside hp => exact .none rfl rfl (hp.delivers ⟨0⟩).1
  | operate ho => exact .none rfl rfl (congrArg Registry.connected ho.registry)
  | connect => exact .opened rfl
  | @register i l hi hs =>
    refine .moved hi rfl rfl ?_
    have hg : l.guest = .counted l.client := by rw [Link.guest, hs]
    exact hg ▸ .register _
  | @read i l bytes payloads kept hi hs hr =>
    refine .none (map_set_of_eq hi ?_) rfl rfl
    rw [Link.guest_of_registered (.inl hs), Link.guest_of_registered, Link.client,
      Connection.client_getD_takeBytes hr]
    dsimp only
    split
    · exact .inl rfl
    · exact .inr rfl
  | pass hi => exact .none (map_set_of_eq hi rfl) rfl rfl
  | write hi hs =>
    refine .none (map_set_of_eq hi ?_) rfl rfl
    rw [Link.guest_of_registered (.inl hs), Link.guest_of_registered, Link.client,
      Connection.client_getD_takeReply]
    dsimp only
    split
    · exact .inl rfl
    · exact .inr rfl
  | quit hi hs =>
    refine .none (map_set_of_eq hi ?_) rfl rfl
    rw [Link.guest_of_registered (.inl hs), Link.guest_of_registered (.inr rfl)]
  | @leave i l hi hs =>
    refine .moved hi rfl rfl ?_
    rw [Link.guest_of_registered (.inr hs)]
    exact .remove _
  | @hangUp i l hi hs =>
    refine .moved hi rfl rfl ?_
    have hg : l.guest = .removed l.client := by rw [Link.guest, hs]
    exact hg ▸ .hangUp _

/-- A connection that looks different after a step of the hub has registered, left or hung up. -/
lemma Step.moves (st : s.Step s') (hi : s.links[i]? = some l) (hi' : s'.links[i]? = some l')
    (hne : l'.guest ≠ l.guest) :
    s'.roster = s.roster.set i l'.guest ∧ s'.nextClient = s.nextClient ∧
      l.guest.Moves s.exchange.registry l'.guest s'.exchange.registry := by
  have hget : s.roster[i]? = some l.guest := by rw [roster, List.getElem?_map, hi]; rfl
  have hget' : s'.roster[i]? = some l'.guest := by rw [roster, List.getElem?_map, hi']; rfl
  cases st.shift with
  | none hr =>
    rw [hr, hget] at hget'
    exact absurd (Option.some.inj hget').symm hne
  | opened hl =>
    rw [hl, List.getElem?_append_left (List.getElem?_eq_some_iff.1 hi).1, hi] at hi'
    exact absurd (congrArg Link.guest (Option.some.inj hi').symm) hne
  | @moved j l₀ x hj hl hn hm =>
    by_cases hji : j = i
    · subst hji
      rw [hl, List.getElem?_set_self (List.getElem?_eq_some_iff.1 hi).1] at hi'
      obtain rfl := Option.some.inj hi'
      obtain rfl := Option.some.inj (hj.symm.trans hi)
      refine ⟨?_, hn, hm⟩
      rw [roster, hl, List.map_set]
      rfl
    · rw [hl, List.getElem?_set_ne hji, hi] at hi'
      exact absurd (congrArg Link.guest (Option.some.inj hi').symm) hne

/-- As long as all connections look the same, none is opened, registered or removed. -/
lemma Step.stays (st : s.Step s') (hr : s'.roster = s.roster) :
    s'.nextClient = s.nextClient ∧
      s'.exchange.registry.connected = s.exchange.registry.connected := by
  cases st.shift with
  | none _ hn hc => exact ⟨hn, hc⟩
  | opened hl =>
    have hlen := congrArg List.length hr
    simp [roster, hl] at hlen
  | @moved i l l' hi hl _ hm =>
    have hget : s'.roster[i]? = some l'.guest := by
      rw [roster, hl, List.getElem?_map, List.getElem?_set_self (List.getElem?_eq_some_iff.1 hi).1]
      rfl
    rw [hr, roster, List.getElem?_map, hi] at hget
    exact absurd (Option.some.inj hget).symm hm.ne

end Hub

/-! ### Together -/

namespace Lobby

variable {workers : List Worker} {maxPending : Nat} {shared : Shared} {capacity : Option Nat}
  {frameLimit slots : Nat} {s s' : Lobby} {xs ys : List Guest} {g g' : Guest} {i j : Nat}

/-- Two lists of connections have the same ones among those that are counted. -/
def Agree (xs ys : List Guest) : Prop :=
  (xs.filter Guest.isCounted).Perm (ys.filter Guest.isCounted)

/-- One that is not counted makes no difference. -/
lemma agree_of_perm_cons (h : (g :: xs).Perm ys) (hg : g.isCounted = false) : Agree xs ys := by
  have hf := h.filter Guest.isCounted
  rwa [List.filter_cons_of_neg (by rw [hg]; exact Bool.false_ne_true)] at hf

/-- One more guest on both sides changes nothing about an agreement. -/
lemma Agree.cons (h : Agree xs ys) (g : Guest) : Agree (g :: xs) (g :: ys) := by
  unfold Agree at h ⊢
  rw [List.filter_cons, List.filter_cons]
  split
  · exact .cons g h
  · exact h

/-- One guest less on both sides changes nothing about an agreement. -/
lemma Agree.of_cons (h : Agree (g :: xs) (g :: ys)) : Agree xs ys := by
  unfold Agree at h ⊢
  rw [List.filter_cons, List.filter_cons] at h
  split at h
  · exact h.cons_inv
  · exact h

/-- A connection goes on in both. -/
lemma Agree.set (h : Agree xs ys) (hi : xs[i]? = some g) (hj : ys[j]? = some g) (g' : Guest) :
    Agree (xs.set i g') (ys.set j g') := by
  have hothers : Agree (g :: xs.eraseIdx i) (g :: ys.eraseIdx j) :=
    ((cons_eraseIdx_perm hi).filter _).trans (h.trans ((cons_eraseIdx_perm hj).filter _).symm)
  have hset := hothers.of_cons.cons g'
  exact ((set_perm_cons hi g').filter _).trans (hset.trans ((set_perm_cons hj g').filter _).symm)

/-- One that was not counted in the first is opened in the second. -/
lemma Agree.connect (h : Agree xs ys) (hi : xs[i]? = some g) (hg : g.isCounted = false)
    (g' : Guest) : Agree (xs.set i g') (ys ++ [g']) := by
  have hothers : Agree (xs.eraseIdx i) ys :=
    (agree_of_perm_cons (cons_eraseIdx_perm hi) hg).trans h
  have hnew := (List.perm_append_singleton g' ys).filter Guest.isCounted
  exact ((set_perm_cons hi g').filter _).trans ((hothers.cons g').trans hnew.symm)

/-- Who is counted is on both sides or on none. -/
lemma Agree.mem_iff (h : Agree xs ys) (hg : g.isCounted = true) : g ∈ xs ↔ g ∈ ys := by
  have hmem := List.Perm.mem_iff (a := g) h
  rwa [List.mem_filter, List.mem_filter, and_iff_left hg, and_iff_left hg] at hmem

/-- As many are counted on both sides. -/
lemma Agree.countP_eq (h : Agree xs ys) :
    xs.countP Guest.isCounted = ys.countP Guest.isCounted := by
  rw [List.countP_eq_length_filter, List.countP_eq_length_filter, h.length_eq]

/-- The acceptor and the hub have the same connections, and the same clients are registered. -/
structure Mirrors (s : Lobby) : Prop where
  guests : Agree s.gate.guests s.hub.roster
  next : s.gate.nextClient = s.hub.nextClient
  connected : s.gate.registry.connected = s.hub.exchange.registry.connected

/-- What a connection does at the gate when it registers, leaves or hangs up. -/
lemma advance_of_moves {a : Admission} {r r' : Registry} (hm : Guest.Moves r g g' r')
    (hc : a.registry.connected = r.connected) :
    (a.advance j g).guests = a.guests.set j g' ∧ (a.advance j g).nextClient = a.nextClient ∧
      (a.advance j g).registry.connected = r'.connected := by
  cases hm with
  | register c => exact ⟨rfl, rfl, by simp only [Admission.advance, Registry.register, hc]⟩
  | remove c => exact ⟨rfl, rfl, by simp only [Admission.advance, Registry.remove, hc]⟩
  | hangUp c => exact ⟨rfl, rfl, hc⟩

/-- Every step keeps the acceptor and the hub together. -/
lemma Step.mirrors (st : s.Step s') (h : s.Mirrors) : s'.Mirrors := by
  cases st with
  | door hd he =>
    obtain ⟨hg, -, hr, hn⟩ := Admission.step?_door he hd
    refine ⟨?_, hn.trans h.next, (congrArg _ hr).trans h.connected⟩
    rcases hg with hg | hg
    · exact hg ▸ h.guests
    · have hnew := agree_of_perm_cons (List.perm_append_singleton .accepted s.gate.guests).symm rfl
      exact hg ▸ hnew.symm.trans h.guests
  | @connect j hj =>
    refine ⟨?_, congrArg (· + 1) h.next, h.connected⟩
    show Agree (s.gate.guests.set j _) ((s.hub.links ++ [s.hub.nextLink]).map Link.guest)
    rw [List.map_append, h.next]
    exact h.guests.connect hj rfl _
  | serve hh hr =>
    obtain ⟨hn, hc⟩ := hh.stays hr
    exact ⟨hr ▸ h.guests, h.next.trans hn.symm, h.connected.trans hc.symm⟩
  | follow hh hi hi' hne hj =>
    obtain ⟨hr, hn, hm⟩ := hh.moves hi hi' hne
    obtain ⟨hg, hn', hc⟩ := advance_of_moves hm h.connected
    refine ⟨?_, ?_, hc⟩
    · have hroster := List.getElem?_map ▸ congrArg (Option.map Link.guest) hi
      exact hr ▸ hg ▸ h.guests.set hj hroster _
    · exact hn'.trans (h.next.trans hn.symm)
  | release hj =>
    exact ⟨(agree_of_perm_cons (cons_eraseIdx_perm hj) rfl).trans h.guests, h.next, h.connected⟩

/-- The acceptor and the hub stay together. -/
lemma Reachable.mirrors (h : Reachable workers maxPending shared capacity frameLimit slots s) :
    s.Mirrors := by
  induction h with
  | start => exact ⟨.nil, rfl, rfl⟩
  | step _ st ih => exact st.mirrors ih

/-- A connection that is not gone holds a slot. -/
lemma Mirrors.guest_mem {l : Link} (h : s.Mirrors) (hl : l ∈ s.hub.links) (hs : l.stage ≠ .gone) :
    l.guest ∈ s.gate.guests := by
  rw [h.guests.mem_iff (l.isCounted_guest.trans (decide_eq_true hs))]
  exact List.mem_map_of_mem hl

/-- What is counted are the connections that are not gone. -/
lemma Mirrors.active_eq (h : s.Mirrors) (hi : s.gate.Inv) :
    s.gate.tally.active = s.hub.links.countP fun l => l.stage ≠ .gone := by
  rw [hi.counted, h.guests.countP_eq, Hub.roster, List.countP_map]
  exact List.countP_congr fun l _ => by rw [Function.comp_apply, l.isCounted_guest]

/-- The acceptor does not hold up those who are there. -/
lemma Mirrors.exists_step {u : Hub} (h : s.Mirrors) (hu : s.hub.Step u)
    (hlen : u.links.length = s.hub.links.length) : ∃ g, s.Step ⟨u, g⟩ := by
  cases hu.shift with
  | none hr => exact ⟨s.gate, .serve hu hr⟩
  | opened hl =>
    rw [hl] at hlen
    simp at hlen
  | @moved i l l' hi hl _ hm =>
    have hmem : l.guest ∈ s.hub.roster := List.mem_map_of_mem (List.mem_of_getElem? hi)
    obtain ⟨j, hj⟩ := List.mem_iff_getElem?.1 ((h.guests.mem_iff hm.isCounted).2 hmem)
    have hi' : u.links[i]? = some l' :=
      hl ▸ List.getElem?_set_self (List.getElem?_eq_some_iff.1 hi).1
    exact ⟨s.gate.advance j l.guest, .follow hu hi hi' hm.ne hj⟩

/-- The registry, the count and the slots agree with the connections. -/
structure Exact (slots : Nat) (s : Lobby) : Prop where
  /-- Registered clients are counted, those that are counted hold a slot, and of the slots none is
  lost or made up. -/
  registered_le : s.hub.exchange.registry.connected.length ≤ s.gate.tally.active
  active_le : s.gate.tally.active ≤ s.gate.held
  held : s.gate.free + s.gate.held = slots
  /-- A connection is counted from when it has its number until it is gone. -/
  counted : s.gate.tally.active = s.hub.links.countP fun l => l.stage ≠ .gone
  /-- A connection that is not gone holds a slot. -/
  holds : ∀ l ∈ s.hub.links, l.stage ≠ .gone → l.guest ∈ s.gate.guests
  /-- A client is registered once, and only while its connection is. -/
  nodup : s.hub.exchange.registry.connected.Nodup
  registered : ∀ c ∈ s.hub.exchange.registry.connected,
    ∃ l ∈ s.hub.links, l.client = c ∧ l.stage.Registered
  /-- No two connections have the same number, unless 2⁶⁴ were opened from one to the other. -/
  distinct : ∀ (i j : Nat) (l l' : Link), s.hub.links[i]? = some l → s.hub.links[j]? = some l' →
    i < j → j < i + UInt64.size → l.client ≠ l'.client
  /-- Who has left is no longer registered, unless so many connections later another one is. -/
  left : ∀ (i : Nat) (l : Link), s.hub.links[i]? = some l → ¬ l.stage.Registered →
    l.client ∈ s.hub.exchange.registry.connected → ∃ (j : Nat) (l' : Link),
      s.hub.links[j]? = some l' ∧ l'.stage.Registered ∧
        (i + UInt64.size ≤ j ∨ j + UInt64.size ≤ i)
  /-- When nobody is there any more and the acceptor waits for nobody, all is as at the start. -/
  idle : s.gate.guests = [] → s.gate.reserved = false →
    s.hub.exchange.registry.connected = [] ∧ s.gate.tally.active = 0 ∧ s.gate.free = slots
  /-- The acceptor does not hold up those who are there. -/
  unhindered : ∀ u, s.hub.Step u → u.links.length = s.hub.links.length → ∃ g, s.Step ⟨u, g⟩

/-- Whatever clients do, however their connections end, and whether or not the acceptor fails now
and then, the registry, the count and the slots agree with the connections. -/
theorem Reachable.exact (h : Reachable workers maxPending shared capacity frameLimit slots s) :
    s.Exact slots := by
  have hinv := h.gate.inv
  have hm := h.mirrors
  have hregistered : ∀ c ∈ s.hub.exchange.registry.connected,
      ∃ l ∈ s.hub.links, l.client = c ∧ l.stage.Registered := by
    intro c hc
    have hguest := hinv.registered c (hm.connected ▸ hc)
    obtain ⟨l, hl, hg⟩ := List.mem_map.1 ((hm.guests.mem_iff rfl).1 hguest)
    exact ⟨l, hl, Link.registered_of_guest hg⟩
  have hnum := h.hub.numbered
  exact {
    registered_le := hm.connected ▸ hinv.length_connected_le
    active_le := hinv.active_le_held
    held := Admission.free_add_held h.gate
    counted := hm.active_eq hinv
    holds := fun l hl hs => hm.guest_mem hl hs
    nodup := hm.connected ▸ hinv.nodup
    registered := hregistered
    distinct := fun i j l l' hi hj hij hlt hc => by
      have hfar := hnum.far_apart hi hj hij.ne hc
      omega
    left := fun i l hi hs hc => by
      obtain ⟨l', hl', he, hr⟩ := hregistered _ hc
      obtain ⟨j, hj⟩ := List.mem_iff_getElem?.1 hl'
      refine ⟨j, l', hj, hr, hnum.far_apart hi hj ?_ he.symm⟩
      rintro rfl
      obtain rfl := Option.some.inj (hi.symm.trans hj)
      exact hs hr
    idle := fun hg hr => by
      have hactive : s.gate.tally.active = 0 := by rw [hinv.counted, hg]; rfl
      have hlen := hm.connected ▸ hinv.length_connected_le
      have hheld := Admission.free_add_held h.gate
      rw [Admission.held, hg, hr] at hheld
      refine ⟨List.length_eq_zero_iff.1 (by omega), hactive, hheld⟩
    unhindered := fun u hu hlen => hm.exists_step hu hlen }

/-- With two slots, accepting fails once; one client is turned away for what it sends, and another
is served. -/
theorem exact_after_refusal : ∃ s : Lobby,
    Reachable [] 1 ⟨.ofCapacities fun _ => 1, [], []⟩ none 8 2 s ∧
      s.hub.links.map (·.stage) = [.gone, .serving] ∧
      s.hub.exchange.registry.connected = [⟨2⟩] ∧
      s.gate.tally.active = 1 ∧ s.gate.held = 1 ∧ s.gate.free = 1 ∧ s.Exact 2 := by
  have started : Reachable [] 1 ⟨.ofCapacities fun _ => 1, [], []⟩ none 8 2 _ := .start
  have failed := started.step (.door (e := .reserve) nofun rfl)
    |>.step (.door (e := .abandon) nofun rfl)
  have accepted := failed.step (.door (e := .reserve) nofun rfl)
    |>.step (.door (e := .arrive) nofun rfl)
  have served := accepted.step (.connect (j := 0) rfl)
    |>.step (.follow (i := 0) (j := 0) (.register (i := 0) rfl rfl) rfl rfl nofun rfl)
  have unreadable : Connection.takeBytes { client := ⟨1⟩, frameLimit := 8 } [255, 255, 255, 255] =
      (([] : List Frame).map (Connection.addressed { client := ⟨1⟩, frameLimit := 8 }), none) := by
    decide +kernel
  have refused := served.step (.serve (.read (i := 0) rfl rfl unreadable) rfl)
  have left := refused.step (.follow (i := 0) (j := 0) (.leave (i := 0) rfl rfl) rfl rfl nofun rfl)
    |>.step (.follow (i := 0) (j := 0) (.hangUp (i := 0) rfl rfl) rfl rfl nofun rfl)
    |>.step (.release (j := 0) rfl)
  have again := left.step (.door (e := .reserve) nofun rfl)
    |>.step (.door (e := .arrive) nofun rfl)
    |>.step (.connect (j := 0) rfl)
    |>.step (.follow (i := 1) (j := 0) (.register (i := 1) rfl rfl) rfl rfl nofun rfl)
  exact ⟨_, again, rfl, rfl, rfl, rfl, rfl, again.exact⟩

end Lobby

end Wayfinding
