import Mathlib.Data.List.Basic
import Wayfinding.Broker.Basic
import Wayfinding.Proofs.Broker.ReadyQueue
import Wayfinding.Proofs.Transport.Address

/-!
# Rounds of a dispatch

A dispatch goes in rounds: each takes the worker that has been idle longest and offers it the oldest
request. `Broker.Round` says what one round can do, so that other parties can act between two of
them. `Broker.dispatch_round` and `Broker.dispatch_quiet` tie the rounds to `Broker.dispatch`.

Main lemmas: `Round.pending` (no request is lost or moved by a round), `dispatch_round`,
`dispatch_congr`.
-/

namespace Wayfinding

namespace Broker

variable {accepts accepts' : WorkerId → Bool} {b : Broker} {d : Dispatch} {w v : WorkerId}

/-- One round of a dispatch: it passes over a worker that is no longer served, hands the oldest
request to one that accepts it, or gives the worker up and keeps the request. -/
inductive Round (accepts : WorkerId → Bool) (b : Broker) : Dispatch → Prop where
  | skip {e rest w ready} :
    b.pending = e :: rest →
    b.ready.next? = some (w, ready) →
    w ∉ b.workers →
    Round accepts b { broker := { b with ready := ready } }
  | hand {e rest w ready} :
    b.pending = e :: rest →
    b.ready.next? = some (w, ready) →
    w ∈ b.workers →
    accepts w = true →
    Round accepts b
      { broker := { b with ready := ready, pending := rest }, handOffs := [⟨w, e.frames⟩] }
  | giveUp {e rest w ready lost} :
    b.pending = e :: rest →
    b.ready.next? = some (w, ready) →
    w ∈ b.workers →
    accepts w = false →
    lost = forget { b with ready := ready, pending := requeue e.frames rest } w →
    Round accepts b { broker := lost, workersGone := decide (lost.workers = []) }

/-- There is nothing to hand out, or nobody to hand it to. -/
def Quiet (b : Broker) : Prop := b.pending = [] ∨ b.ready.next? = none

/-- Every waiting request has an address, so that it can be put back. -/
def Addressed (b : Broker) : Prop := ∀ e ∈ b.pending, e.client ≠ []

/-- A request with an address is put back as it was. -/
lemma requeue_frames {e : Envelope} (h : e.client ≠ []) (rest : List Envelope) :
    requeue e.frames rest = e :: rest := by
  simp [requeue, Envelope.parse_frames h]

/-- A round can be made unless there is nothing to hand out. -/
lemma quiet_or_round (accepts : WorkerId → Bool) (b : Broker) :
    b.Quiet ∨ ∃ d, Round accepts b d := by
  cases hp : b.pending with
  | nil => exact .inl (.inl hp)
  | cons e rest =>
    cases hn : b.ready.next? with
    | none => exact .inl (.inr hn)
    | some r =>
      obtain ⟨w, ready⟩ := r
      by_cases hw : w ∈ b.workers
      · cases ha : accepts w with
        | true => exact .inr ⟨_, .hand hp hn hw ha⟩
        | false => exact .inr ⟨_, .giveUp hp hn hw ha rfl⟩
      · exact .inr ⟨_, .skip hp hn hw⟩

/-- No round is made when there is nothing to hand out. -/
lemma Round.not_quiet (h : Round accepts b d) : ¬b.Quiet := by
  rintro (hp | hn)
  · cases h <;> simp_all
  · cases h <;> simp_all

/-- A dispatch with nothing to hand out changes nothing. -/
lemma dispatch_quiet (h : b.Quiet) : b.dispatch accepts = { broker := b } := by
  rw [dispatch]
  obtain h | h := h
  · simp [h]
  · split
    · rfl
    · split
      · rfl
      · next hn => simp [h] at hn

/-- A dispatch goes on after a round, unless the last worker was lost in it. -/
lemma dispatch_round (h : Round accepts b d) :
    b.dispatch accepts =
      if d.workersGone then d
      else { d.broker.dispatch accepts with
        handOffs := d.handOffs ++ (d.broker.dispatch accepts).handOffs } := by
  rw [dispatch]
  -- each kind of round is one branch of a dispatch; the others are excluded by its premises
  cases h with
  | skip hp hn hw =>
    simp only [hp]
    split
    · next hn' => simp [hn] at hn'
    · next w' ready' hn' =>
      obtain ⟨rfl, rfl⟩ : w' = _ ∧ ready' = _ := by simpa [hn] using hn'.symm
      simp [hw]
  | hand hp hn hw ha =>
    simp only [hp]
    split
    · next hn' => simp [hn] at hn'
    · next w' ready' hn' =>
      obtain ⟨rfl, rfl⟩ : w' = _ ∧ ready' = _ := by simpa [hn] using hn'.symm
      simp [hw, ha]
  | giveUp hp hn hw ha hl =>
    simp only [hp]
    split
    · next hn' => simp [hn] at hn'
    · next w' ready' hn' =>
      obtain ⟨rfl, rfl⟩ : w' = _ ∧ ready' = _ := by simpa [hn] using hn'.symm
      simp only [hw, not_true_eq_false, ha, ← hl, if_false, Bool.false_eq_true, decide_eq_true_eq,
        List.nil_append]
      split <;> simp_all

/-! ### What a round changes -/

/-- A round takes one worker from the ready queue. -/
lemma Round.queue_sublist (h : Round accepts b d) :
    d.broker.ready.queue.length < b.ready.queue.length ∧
      d.broker.ready.queue.Sublist b.ready.queue := by
  cases h with
  | skip _ hn _ =>
    obtain ⟨hq, -, -⟩ := ReadyQueue.next?_eq_some hn
    simp [hq]
  | hand _ hn _ _ =>
    obtain ⟨hq, -, -⟩ := ReadyQueue.next?_eq_some hn
    simp [hq]
  | @giveUp _ _ w ready _ _ hn _ _ hl =>
    obtain ⟨hq, -, -⟩ := ReadyQueue.next?_eq_some hn
    have hle := ReadyQueue.length_queue_remove_le ready w
    have hsub : (ready.remove w).queue.Sublist ready.queue := List.filter_sublist
    subst hl
    simp only [forget, hq, List.length_cons]
    exact ⟨by omega, hsub.cons _⟩

/-- A round asks nobody but the worker that has been idle longest, and that one only if it is
served. -/
lemma Round.congr (h : Round accepts b d)
    (ha : ∀ w ready, b.ready.next? = some (w, ready) → w ∈ b.workers →
      accepts w = accepts' w) : Round accepts' b d := by
  cases h with
  | skip hp hn hw => exact .skip hp hn hw
  | hand hp hn hw hacc => exact .hand hp hn hw (ha _ _ hn hw ▸ hacc)
  | giveUp hp hn hw hacc hl => exact .giveUp hp hn hw (ha _ _ hn hw ▸ hacc) hl

/-- The worker that a round takes from the ready queue is not in it any more. -/
lemma Round.next_notMem {ready : ReadyQueue} (h : Round accepts b d) (hs : b.ready.Sound)
    (hn : b.ready.next? = some (w, ready)) : w ∉ d.broker.ready.queue := by
  obtain ⟨hq, -, -⟩ := ReadyQueue.next?_eq_some hn
  have hnd := hs.nodup
  rw [hq, List.nodup_cons] at hnd
  cases h with
  | skip _ hn' _ =>
    rw [hn] at hn'
    cases hn'
    exact hnd.1
  | hand _ hn' _ _ =>
    rw [hn] at hn'
    cases hn'
    exact hnd.1
  | giveUp _ hn' _ _ hl =>
    rw [hn] at hn'
    cases hn'
    subst hl
    exact fun hmem => hnd.1 (List.mem_of_mem_filter hmem)

/-- A round adds no worker. -/
lemma Round.workers_subset (h : Round accepts b d) : d.broker.workers ⊆ b.workers := by
  cases h with
  | skip => exact fun _ hv => hv
  | hand => exact fun _ hv => hv
  | giveUp _ _ _ _ hl =>
    subst hl
    exact fun v hv => (List.mem_filter.1 hv).1

/-- A round hands requests to known workers only. -/
lemma Round.handOff_mem (h : Round accepts b d) {o : HandOff} (ho : o ∈ d.handOffs) :
    o.worker ∈ d.broker.workers ∧ accepts o.worker = true := by
  cases h with
  | skip => simp at ho
  | hand _ _ hw ha =>
    obtain rfl : o = _ := by simpa using ho
    exact ⟨hw, ha⟩
  | giveUp => simp at ho

/-- The requests that waited before a round are the one that it handed over and those that wait
after it, in this order. -/
lemma Round.pending (h : Round accepts b d) (ha : b.Addressed) :
    b.pending.map Envelope.frames =
      d.handOffs.map HandOff.request ++ d.broker.pending.map Envelope.frames := by
  cases h with
  | skip => simp
  | hand hp _ _ _ => simp [hp]
  | @giveUp e rest _ _ _ hp _ _ _ hl =>
    have he : e.client ≠ [] := ha e (by simp [hp])
    subst hl
    simp [hp, forget, requeue_frames he]

/-- A round that hands nothing over leaves the waiting requests as they are. -/
lemma Round.pending_of_no_handOff (h : Round accepts b d) (ha : b.Addressed)
    (hd : d.handOffs = []) : d.broker.pending = b.pending := by
  have hp := h.pending ha
  rw [hd, List.map_nil, List.nil_append] at hp
  exact (List.map_injective_iff.2 Envelope.frames_injective hp).symm

/-- A round keeps the addresses of the waiting requests. -/
lemma Round.addressed (h : Round accepts b d) (ha : b.Addressed) : d.broker.Addressed := by
  intro e he
  have hmem : e.frames ∈ b.pending.map Envelope.frames := by
    rw [h.pending ha]
    exact List.mem_append_right _ (List.mem_map_of_mem he)
  exact ha e ((List.mem_map_of_injective Envelope.frames_injective).1 hmem)

/-- A round keeps the ready queue sound. -/
lemma Round.sound (h : Round accepts b d) (hs : b.ready.Sound) : d.broker.ready.Sound := by
  cases h with
  | skip _ hn _ => exact hs.next hn
  | hand _ hn _ _ => exact hs.next hn
  | giveUp _ hn _ _ hl =>
    subst hl
    exact (hs.next hn).remove _

/-- A dispatch only asks the idle workers that it serves whether they accept. -/
lemma dispatch_congr {n : Nat} (hn : b.ready.queue.length = n)
    (h : ∀ w ∈ b.ready.queue, w ∈ b.workers → accepts w = accepts' w) :
    b.dispatch accepts = b.dispatch accepts' := by
  -- every round shortens the ready queue
  induction n using Nat.strongRecOn generalizing b with
  | ind n ih =>
    obtain hq | ⟨d, hd⟩ := quiet_or_round accepts b
    · rw [dispatch_quiet hq, dispatch_quiet hq]
    · -- the round asks the head of the queue, so it is a round for both
      have hd' : Round accepts' b d := hd.congr fun w ready hr hw => by
        obtain ⟨hq, -, -⟩ := ReadyQueue.next?_eq_some hr
        exact h w (hq ▸ List.mem_cons_self) hw
      obtain ⟨hlt, hsub⟩ := hd.queue_sublist
      have hrest : d.broker.dispatch accepts = d.broker.dispatch accepts' :=
        ih _ (hn ▸ hlt) rfl fun w hq hw => h w (hsub.subset hq) (hd.workers_subset hw)
      rw [dispatch_round hd, dispatch_round hd', hrest]

end Broker

end Wayfinding
