import Mathlib.Data.List.Range
import Wayfinding.Proofs.Service.Hub

/-!
# Mail

Connections are numbered one after the other, so that no two of the first 2⁶⁴ have the same client.
What is in the mailbox of a client, together with what its connection has taken from it, is what the
broker has delivered to this client; nothing is delivered before the connection has registered, or
after it has left.

Main definitions: `Numbered`, `Mailed`.
Main lemmas: `Numbered.nodup`, `BrokerLoop.Step.delivers`, `Mailed.step`.
-/

namespace Wayfinding

/-! ### Numbers -/

/-- The client of the connection that was opened as number `k`, counted from 0. -/
def ClientId.opened (k : Nat) : ClientId := ⟨1 + UInt64.ofNat k⟩

/-- Connections have the same client only if they are a multiple of 2⁶⁴ apart. -/
lemma ClientId.mod_eq_of_opened {j k : Nat} (h : opened j = opened k) :
    j % UInt64.size = k % UInt64.size := by
  have hn : UInt64.ofNat j = UInt64.ofNat k := by
    simpa [opened] using h
  have ht := congrArg UInt64.toNat hn
  rwa [UInt64.toNat_ofNat', UInt64.toNat_ofNat'] at ht

/-- The first 2⁶⁴ connections have different clients. -/
lemma ClientId.opened_injective {j k : Nat} (hj : j < UInt64.size) (hk : k < UInt64.size)
    (h : opened j = opened k) : j = k := by
  have hmod := mod_eq_of_opened h
  rwa [Nat.mod_eq_of_lt hj, Nat.mod_eq_of_lt hk] at hmod

/-- Connections are numbered in the order in which they were opened. -/
structure Numbered (links : List Link) (next : UInt64) : Prop where
  next : next = 1 + UInt64.ofNat links.length
  clients : links.map Link.client = (List.range links.length).map .opened

namespace Numbered

variable {links : List Link} {next : UInt64} {l l' : Link} {i : Nat}

/-- As long as there are fewer than 2⁶⁴ connections, their clients differ. -/
lemma nodup (h : Numbered links next) (hl : links.length < UInt64.size) :
    (links.map Link.client).Nodup := by
  rw [h.clients]
  refine List.Nodup.map_on ?_ List.nodup_range
  intro j hj k hk he
  exact ClientId.opened_injective ((List.mem_range.1 hj).trans hl)
    ((List.mem_range.1 hk).trans hl) he

/-- The number of a connection. -/
lemma client_eq (h : Numbered links next) (hi : links[i]? = some l) : l.client = .opened i := by
  obtain ⟨hlt, -⟩ := List.getElem?_eq_some_iff.1 hi
  have hget : (links.map Link.client)[i]? = some l.client := by rw [List.getElem?_map, hi]; rfl
  rw [h.clients, List.getElem?_map, List.getElem?_range hlt] at hget
  exact (Option.some.inj hget).symm

/-- Two connections with the same client are at least 2⁶⁴ apart. -/
lemma far_apart {j : Nat} (h : Numbered links next) (hi : links[i]? = some l)
    (hj : links[j]? = some l') (hne : i ≠ j) (hc : l.client = l'.client) :
    i + UInt64.size ≤ j ∨ j + UInt64.size ≤ i := by
  rw [h.client_eq hi, h.client_eq hj] at hc
  have hmod := ClientId.mod_eq_of_opened hc
  rw [UInt64.size] at hmod ⊢
  omega

/-- The next connection is numbered. -/
lemma connect (h : Numbered links next) (hc : l.client = ⟨next⟩) :
    Numbered (links ++ [l]) (next + 1) where
  next := by
    rw [h.next, List.length_append, List.length_singleton, UInt64.ofNat_add]
    exact UInt64.add_assoc ..
  clients := by
    simp [h.clients, List.range_succ, hc, h.next, ClientId.opened]

/-- A connection keeps its number. -/
lemma set (h : Numbered links next) (hi : links[i]? = some l) (hc : l'.client = l.client) :
    Numbered (links.set i l') next where
  next := by simpa using h.next
  clients := by
    rw [map_set_of_eq hi hc, List.length_set]
    exact h.clients

end Numbered

/-- Every step of the hub numbers the connection that it opens, and lets the others keep theirs. -/
lemma Hub.Step.numbered {s s' : Hub} (st : s.Step s') (h : Numbered s.links s.nextClient) :
    Numbered s'.links s'.nextClient := by
  cases st with
  | inside => exact h
  | operate => exact h
  | connect => exact h.connect rfl
  | read hi _ hr => exact h.set hi (Connection.client_getD_takeBytes hr)
  | write hi => exact h.set hi (Connection.client_getD_takeReply ..)
  | register hi => exact h.set hi rfl
  | pass hi => exact h.set hi rfl
  | quit hi => exact h.set hi rfl
  | leave hi => exact h.set hi rfl
  | hangUp hi => exact h.set hi rfl

/-- In every run, connections are numbered in the order in which they were opened. -/
lemma Hub.Reachable.numbered {workers : List Worker} {maxPending : Nat} {shared : Shared}
    {capacity : Option Nat} {frameLimit : Nat} {s : Hub}
    (h : Reachable workers maxPending shared capacity frameLimit s) :
    Numbered s.links s.nextClient := by
  induction h with
  | start => exact ⟨rfl, rfl⟩
  | step _ st ih => exact st.numbered ih

/-! ### Delivered replies -/

/-- The messages for a client among some messages. -/
def mailOf (c : ClientId) (log : List (ClientId × Multipart)) : List Multipart :=
  (log.filter fun entry => entry.1 = c).map (·.2)

/-- The mail of two logs is that of both together. -/
@[simp] lemma mailOf_append (c : ClientId) (log log' : List (ClientId × Multipart)) :
    mailOf c (log ++ log') = mailOf c log ++ mailOf c log' := by
  simp [mailOf]

/-- A message to a client is mail of this client. -/
@[simp] lemma mailOf_self (c : ClientId) (m : Multipart) : mailOf c [(c, m)] = [m] := by
  simp [mailOf]

/-- A message for another client is none for this one. -/
lemma mailOf_of_ne {c c' : ClientId} (h : c' ≠ c) (m : Multipart) : mailOf c' [(c, m)] = [] := by
  simp [mailOf, h.symm]

/-- What is noted as delivered, and nothing else, is put into the mailbox of a connected client. -/
lemma Ledger.deliver_mailbox (g : Ledger) (r : Registry) (reply : Envelope) (c : ClientId) :
    ∃ ms, mailOf c (g.deliver r reply).delivered = mailOf c g.delivered ++ ms ∧
      ((Broker.delivery? reply).elim r fun d => r.deliver d.1 d.2).mailbox? c =
        (r.mailbox? c).map (· ++ ms) ∧
      (c ∉ r.connected → ms = []) := by
  have hnothing : (r.mailbox? c).map (· ++ ([] : List Multipart)) = r.mailbox? c := by simp
  unfold deliver
  cases hd : Broker.delivery? reply with
  | none => exact ⟨[], by simp, hnothing.symm, fun _ => rfl⟩
  | some d =>
    obtain ⟨c', m⟩ := d
    -- a reply is dropped when its client is not connected, or connected without a mailbox
    by_cases hc : c' ∈ r.connected
    · by_cases he : c = c'
      · subst he
        cases hm : r.mailbox? c with
        | none =>
          refine ⟨[], ?_, ?_, fun _ => rfl⟩
          · simp [Registry.reaches, hm]
          · simp [Registry.mailbox?_deliver hc, hm]
        | some box =>
          refine ⟨[m], ?_, ?_, fun hn => absurd hc hn⟩
          · simp [Registry.reaches, hm, hc]
          · simp [Registry.mailbox?_deliver hc, hm]
      · refine ⟨[], ?_, ?_, fun _ => rfl⟩
        · by_cases hr : r.reaches c' <;> simp [hr, mailOf_of_ne he]
        · simp [Registry.mailbox?_deliver hc, he]
    · refine ⟨[], ?_, ?_, fun _ => rfl⟩
      · simp [Registry.reaches, hc]
      · simp [Registry.deliver_of_notMem hc]

/-- What the broker hands on for the message of a worker is the reply that the message carries. -/
lemma Broker.receiveWorker_snd (b : Broker) (m : Multipart) :
    (b.receiveWorker m).2 = (b.reply? m).elim none fun r => delivery? r.2 := by
  cases hr : b.reply? m with
  | none => exact receiveWorker_of_reply?_eq_none hr
  | some r =>
    obtain ⟨rfl, hne, hw⟩ := reply?_eq_some (w := r.1) (e := r.2) hr
    exact congrArg Prod.snd (receiveWorker_frames hw hne)

/-- The registry after the message of a worker. -/
lemma Exchange.registry_receiveWorker (e : Exchange) (m : Multipart) :
    (e.receiveWorker m).registry =
      (e.broker.receiveWorker m).2.elim e.registry fun d => e.registry.deliver d.1 d.2 := by
  unfold receiveWorker deliver
  dsimp only
  split
  · next h => rw [h]; rfl
  · next h => rw [h]; rfl

/-- What the broker notes as delivered in a step is put into the mailbox of a connected client. -/
lemma BrokerLoop.Step.delivers {l l' : BrokerLoop} (st : l.Step l') (c : ClientId) :
    l'.exchange.registry.connected = l.exchange.registry.connected ∧
    ∃ ms, mailOf c l'.ledger.delivered = mailOf c l.ledger.delivered ++ ms ∧
      l'.exchange.registry.mailbox? c = (l.exchange.registry.mailbox? c).map (· ++ ms) ∧
      (c ∉ l.exchange.registry.connected → ms = []) := by
  have hnothing : ∀ r : Registry,
      (r.mailbox? c).map (· ++ ([] : List Multipart)) = r.mailbox? c := by simp
  cases st with
  | @attend e _ g _ ho he =>
    cases ho with
    | @worker m rest hr =>
      refine ⟨?_, ?_⟩
      · simp only [Exchange.attend, Exchange.registry_receiveWorker]
        cases (e.broker.receiveWorker m).2 with
        | none => rfl
        | some d => exact Registry.connected_deliver
      · simp only [Exchange.attend, Exchange.registry_receiveWorker, Broker.receiveWorker_snd,
          Ledger.attend]
        cases e.broker.reply? m with
        | none => exact ⟨[], by simp, (hnothing _).symm, fun _ => rfl⟩
        | some r =>
          have hd := (g.settle r.1 r.2).deliver_mailbox e.registry r.2 c
          rwa [Ledger.delivered_settle] at hd
    | @client m =>
      refine ⟨rfl, [], ?_, (hnothing _).symm, fun _ => rfl⟩
      simp only [Ledger.attend, Ledger.take]
      cases Envelope.parse m <;> simp
    | _ => simp [Exchange.Event.loopEnd?] at he
  | finish ho =>
    refine ⟨?_, [], by simp, ?_, fun _ => rfl⟩
    · cases ho <;> rfl
    · cases ho <;> exact (hnothing _).symm
  | round => exact ⟨by simp, [], by simp [Ledger.hand], by simp, fun _ => rfl⟩
  | lastRound => exact ⟨by simp, [], by simp [Ledger.hand], by simp, fun _ => rfl⟩
  | rest => exact ⟨rfl, [], by simp, (hnothing _).symm, fun _ => rfl⟩
  | rebuild => exact ⟨rfl, [], by simp, (hnothing _).symm, fun _ => rfl⟩
  | stop => exact ⟨rfl, [], by simp, (hnothing _).symm, fun _ => rfl⟩

/-! ### Mailboxes -/

/-- Whether a connection is registered. -/
def LinkStage.Registered (s : LinkStage) : Prop := s = .serving ∨ s = .closing

/-- A connection that is registered has not just been numbered. -/
lemma LinkStage.Registered.ne_counted {s : LinkStage} (h : s.Registered) : s ≠ .counted := by
  rintro rfl
  obtain h | h := h <;> cases h

/-- What the mailboxes have to do with what was delivered and what was collected. -/
structure Mailed (links : List Link) (r : Registry)
    (delivered collected : List (ClientId × Multipart)) : Prop where
  connected : ∀ c ∈ r.connected, ∃ l ∈ links, l.client = c ∧ l.stage.Registered
  mailbox : ∀ c box, r.mailbox? c = some box → mailOf c collected ++ box = mailOf c delivered
  fresh : ∀ c, (∀ l ∈ links, l.client = c → l.stage = .counted) →
    mailOf c delivered = [] ∧ mailOf c collected = []

namespace Mailed

variable {links : List Link} {r r' : Registry} {delivered collected : List (ClientId × Multipart)}
  {l l' : Link} {i : Nat} {m : Multipart} {box : List Multipart}

/-- The broker delivers something. -/
lemma deliver {delivered' : List (ClientId × Multipart)} (h : Mailed links r delivered collected)
    (hc : r'.connected = r.connected)
    (hd : ∀ c, ∃ ms, mailOf c delivered' = mailOf c delivered ++ ms ∧
      r'.mailbox? c = (r.mailbox? c).map (· ++ ms) ∧ (c ∉ r.connected → ms = [])) :
    Mailed links r' delivered' collected where
  connected c hmem := h.connected c (hc ▸ hmem)
  mailbox c box hbox := by
    obtain ⟨ms, hms, hmail, -⟩ := hd c
    rw [hmail] at hbox
    obtain ⟨old, hold, rfl⟩ := Option.map_eq_some_iff.1 hbox
    rw [hms, ← h.mailbox c old hold, List.append_assoc]
  fresh c hf := by
    obtain ⟨ms, hms, -, hnone⟩ := hd c
    obtain ⟨hdel, hcol⟩ := h.fresh c hf
    have hnot : c ∉ r.connected := by
      intro hmem
      obtain ⟨l, hl, hlc, hreg⟩ := h.connected c hmem
      exact hreg.ne_counted (hf l hl hlc)
    exact ⟨by rw [hms, hdel, hnone hnot, List.append_nil], hcol⟩

/-- A connection is opened. -/
lemma connect (h : Mailed links r delivered collected) :
    Mailed (links ++ [l]) r delivered collected where
  connected c hmem := by
    obtain ⟨l', hl, hc⟩ := h.connected c hmem
    exact ⟨l', List.mem_append_left _ hl, hc⟩
  mailbox := h.mailbox
  fresh c hf := h.fresh c fun l hl => hf l (List.mem_append_left _ hl)

/-- What is put at an index is there. -/
lemma mem_set_self (hi : links[i]? = some l) : l' ∈ links.set i l' :=
  List.mem_set (List.getElem?_eq_some_iff.1 hi).1 l'

/-- A connection goes on, which changes no mailbox but perhaps its own. -/
lemma set (h : Mailed links r delivered collected) {collected' : List (ClientId × Multipart)}
    (hi : links[i]? = some l) (hc : l'.client = l.client) (hs : l'.stage ≠ .counted)
    (hconn : ∀ c ∈ r'.connected,
      (c ∈ r.connected ∨ c = l.client) ∧ (c = l.client → l'.stage.Registered))
    (hbox : ∀ c box, r'.mailbox? c = some box → c ≠ l.client → r.mailbox? c = some box)
    (hown : ∀ box, r'.mailbox? l.client = some box →
      mailOf l.client collected' ++ box = mailOf l.client delivered)
    (hcol : ∀ c, c ≠ l.client → mailOf c collected' = mailOf c collected) :
    Mailed (links.set i l') r' delivered collected' where
  connected c hmem := by
    obtain ⟨hold, hreg⟩ := hconn c hmem
    by_cases he : c = l.client
    · exact ⟨l', mem_set_self hi, hc.trans he.symm, hreg he⟩
    · obtain ⟨l₀, hl₀, rfl, hr⟩ := h.connected c (hold.resolve_right he)
      exact ⟨l₀, mem_set_of_ne hi hl₀ fun heq => he (heq ▸ rfl), rfl, hr⟩
  mailbox c box hb := by
    by_cases he : c = l.client
    · subst he
      exact hown box hb
    · rw [hcol c he]
      exact h.mailbox c box (hbox c box hb he)
  fresh c hf := by
    have he : c ≠ l.client := by
      rintro rfl
      exact hs (hf l' (mem_set_self hi) hc)
    rw [hcol c he]
    refine h.fresh c fun l₀ hl₀ hlc => hf l₀ (mem_set_of_ne hi hl₀ ?_) hlc
    rintro rfl
    exact he hlc.symm

/-- A connection that neither joins nor leaves keeps the mail. -/
lemma keep (h : Mailed links r delivered collected) (hi : links[i]? = some l)
    (hc : l'.client = l.client) (hs : l'.stage.Registered) :
    Mailed (links.set i l') r delivered collected :=
  h.set hi hc hs.ne_counted (fun _ hm => ⟨.inl hm, fun _ => hs⟩) (fun _ _ hb _ => hb)
    (fun box hb => h.mailbox _ box hb) fun _ _ => rfl

/-- A connection registers its mailbox, into which nothing has been delivered before. -/
lemma register (h : Mailed links r delivered collected) (hn : (links.map Link.client).Nodup)
    (hi : links[i]? = some l) (hs : l.stage = .counted) (hc : l'.client = l.client)
    (hs' : l'.stage.Registered) :
    Mailed (links.set i l') (r.register l.client) delivered collected := by
  refine h.set hi hc hs'.ne_counted (fun c hm => ?_) (fun c box hb he => ?_) (fun box hb => ?_)
    fun _ _ => rfl
  · exact ⟨(Registry.mem_connected_register.1 hm).symm, fun _ => hs'⟩
  · rwa [Registry.mailbox?_register_of_ne he] at hb
  · -- no other connection has this client
    have hfresh : ∀ l₀ ∈ links, l₀.client = l.client → l₀.stage = .counted := by
      intro l₀ hl₀ hc
      obtain rfl := List.inj_on_of_nodup_map hn hl₀ (List.mem_of_getElem? hi) hc
      exact hs
    obtain ⟨hdel, hcol⟩ := h.fresh l.client hfresh
    obtain rfl : [] = box := by simpa [Registry.mailbox?_register_self] using hb
    rw [hdel, hcol, List.append_nil]

/-- A connection takes a reply from its mailbox. -/
lemma collect (h : Mailed links r delivered collected) (hi : links[i]? = some l)
    (hm : r.mailbox? l.client = some (m :: box)) (hc : l'.client = l.client)
    (hs : l'.stage.Registered) :
    Mailed (links.set i l') (r.pop l.client) delivered (collected ++ [(l.client, m)]) := by
  refine h.set hi hc hs.ne_counted (fun c hm => ⟨.inl hm, fun _ => hs⟩) (fun c box' hb he => ?_)
    (fun box' hb => ?_) fun c he => ?_
  · simpa [Registry.mailbox?_pop, he] using hb
  · obtain rfl : box = box' := by simpa [Registry.mailbox?_pop, hm] using hb
    rw [← h.mailbox _ _ hm]
    simp
  · simp [mailOf_of_ne he]

/-- A connection leaves. -/
lemma leave (h : Mailed links r delivered collected) (hi : links[i]? = some l)
    (hc : l'.client = l.client) (hs : l'.stage ≠ .counted) :
    Mailed (links.set i l') (r.remove l.client) delivered collected := by
  refine h.set hi hc hs (fun c hm => ?_) (fun _ _ hb _ => hb)
    (fun box hb => h.mailbox _ box hb) fun _ _ => rfl
  obtain ⟨hm, hne⟩ := Registry.mem_connected_remove.1 hm
  exact ⟨.inl hm, fun he => absurd he hne⟩

/-- The client of a connection that has left is not connected. -/
lemma notMem_of_not_registered (h : Mailed links r delivered collected)
    (hn : (links.map Link.client).Nodup) (hl : l ∈ links) (hs : ¬ l.stage.Registered) :
    l.client ∉ r.connected := by
  intro hm
  obtain ⟨l₀, hl₀, hc, hr⟩ := h.connected _ hm
  obtain rfl := List.inj_on_of_nodup_map hn hl₀ hl hc
  exact hs hr

/-- A connection that has left gives up its mailbox. -/
lemma hangUp (h : Mailed links r delivered collected) (hn : (links.map Link.client).Nodup)
    (hi : links[i]? = some l) (hs : ¬ l.stage.Registered) (hc : l'.client = l.client)
    (hs' : l'.stage ≠ .counted) :
    Mailed (links.set i l') (r.hangUp l.client) delivered collected := by
  have hnot := h.notMem_of_not_registered hn (List.mem_of_getElem? hi) hs
  refine h.set hi hc hs' (fun c hm => ⟨.inl hm, ?_⟩) (fun c box hb he => ?_) (fun box hb => ?_)
    fun _ _ => rfl
  · rintro rfl
    exact absurd hm hnot
  · rwa [Registry.mailbox?_hangUp_of_ne he] at hb
  · rw [Registry.mailbox?_hangUp_self] at hb
    cases hb

end Mailed

end Wayfinding
