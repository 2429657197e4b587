import Wayfinding.Proofs.Broker.ReadyQueue

/-!
# Who has waited longest

The queue and the states of the workers are changed by each operation on its own. After any
operations they agree, and the queue is in the order in which the workers have joined it, by the
last time that becoming ready has put them there. So the worker that is taken is the idle one that
has waited longest.

Main definitions: `ReadyQueue.after`, `ReadyQueue.joined?`, `ReadyQueue.Fifo`.
Main lemmas: `ReadyQueue.sound_after`, `ReadyQueue.inOrder_after`, `ReadyQueue.fifo_after`.
-/

namespace Wayfinding.ReadyQueue

/-- An operation of the queue. -/
inductive Operation where
  | markReady (w : WorkerId)
  | next
  | remove (w : WorkerId)
deriving DecidableEq

/-- The queue after an operation; there may be nobody to take. -/
def perform (q : ReadyQueue) : Operation → ReadyQueue
  | .markReady w => (q.markReady w).2
  | .next => (q.next?.map (·.2)).getD q
  | .remove w => q.remove w

/-- The queue after some operations on the empty one, the latest operation first. -/
def after : List Operation → ReadyQueue
  | [] => {}
  | op :: ops => (after ops).perform op

/-- The operation puts a worker into the queue that some operations have led to. -/
def Joins (ops : List Operation) (op : Operation) (w : WorkerId) : Prop :=
  op = .markReady w ∧ ((after ops).markReady w).1 = true

instance (ops : List Operation) (op : Operation) (w : WorkerId) : Decidable (Joins ops op w) :=
  inferInstanceAs (Decidable (_ ∧ _))

/-- When a worker last joined the queue: how many operations there were before. -/
def joined? (w : WorkerId) : List Operation → Option Nat
  | [] => none
  | op :: ops => if Joins ops op w then some ops.length else joined? w ops

/-- One worker last joined the queue before the other did. -/
def Precedes (ops : List Operation) (v w : WorkerId) : Prop :=
  ∃ i j, joined? v ops = some i ∧ joined? w ops = some j ∧ i < j

variable {q : ReadyQueue} {ops : List Operation} {op : Operation} {v w : WorkerId} {i : Nat}

/-! ### Operations, one by one -/

/-- A worker that waits already keeps its place. -/
lemma markReady_of_idle (h : q.state? w = some .idle) : q.markReady w = (false, q) := by
  simp [ReadyQueue.markReady, h]

/-- Any other worker gets a place. -/
lemma markReady_fst_of_not_idle (h : q.state? w ≠ some .idle) : (q.markReady w).1 = true := by
  unfold ReadyQueue.markReady
  split
  · contradiction
  · rfl

/-- Becoming ready changes nothing exactly for the idle workers. -/
lemma markReady_eq_iff : q.markReady w = (false, q) ↔ q.state? w = some .idle := by
  constructor
  · intro h
    by_contra hidle
    have hfst := markReady_fst_of_not_idle hidle
    rw [h] at hfst
    cases hfst
  · exact markReady_of_idle

/-- There is no next worker if nobody waits. -/
lemma next?_eq_none_iff : q.next? = none ↔ q.queue = [] := by
  unfold ReadyQueue.next?
  split
  · next hq => exact iff_of_true rfl hq
  · next hq => exact iff_of_false nofun (by simp [hq])

/-- Each operation keeps the queue sound. -/
lemma sound_perform (h : q.Sound) (op : Operation) : (q.perform op).Sound := by
  cases op with
  | markReady w => exact h.markReady w
  | next =>
    unfold perform
    cases hn : q.next? with
    | none => exact h
    | some r => exact h.next hn
  | remove w => exact h.remove w

/-- The queue is sound after any operations. -/
lemma sound_after (ops : List Operation) : (after ops).Sound := by
  induction ops with
  | nil => exact .empty
  | cons op ops ih => exact sound_perform ih op

/-! ### The order of the queue -/

/-- Who joins has joined last. -/
lemma joined?_cons_of_joins (h : Joins ops op w) : joined? w (op :: ops) = some ops.length :=
  if_pos h

/-- Who does not join has joined when it did. -/
lemma joined?_cons_of_not (h : ¬ Joins ops op w) : joined? w (op :: ops) = joined? w ops :=
  if_neg h

/-- Nobody has joined later than now. -/
lemma lt_length_of_joined? (h : joined? w ops = some i) : i < ops.length := by
  induction ops with
  | nil => cases h
  | cons op ops ih =>
    by_cases hj : Joins ops op w
    · rw [joined?_cons_of_joins hj] at h
      cases h
      exact Nat.lt_succ_self _
    · rw [joined?_cons_of_not hj] at h
      exact Nat.lt_succ_of_lt (ih h)

/-- A worker that waits has joined the queue at some time, and before those who wait behind it. -/
structure InOrder (ops : List Operation) (queue : List WorkerId) : Prop where
  joined : ∀ w ∈ queue, ∃ i, joined? w ops = some i
  precedes : queue.Pairwise (Precedes ops)

/-- Who leaves does not change the order of the others. -/
lemma InOrder.sublist {queue queue' : List WorkerId} (h : InOrder ops queue)
    (hs : queue'.Sublist queue) : InOrder ops queue' :=
  ⟨fun w hw => h.joined w (hs.subset hw), h.precedes.sublist hs⟩

/-- An operation leaves the order of those who do not join. -/
lemma InOrder.cons {queue : List WorkerId} (h : InOrder ops queue)
    (hstay : ∀ w ∈ queue, ¬ Joins ops op w) : InOrder (op :: ops) queue := by
  have hsame : ∀ w ∈ queue, joined? w (op :: ops) = joined? w ops :=
    fun w hw => joined?_cons_of_not (hstay w hw)
  refine ⟨fun w hw => ?_, h.precedes.imp_of_mem fun {v w} hv hw hvw => ?_⟩
  · rw [hsame w hw]
    exact h.joined w hw
  · unfold Precedes
    rw [hsame v hv, hsame w hw]
    exact hvw

/-- The worker that joins is the last one to have done so. -/
lemma InOrder.join {queue : List WorkerId} (h : InOrder ops queue) (hw : w ∉ queue)
    (hj : Joins ops op w) : InOrder (op :: ops) (queue ++ [w]) := by
  have hstay : ∀ v ∈ queue, ¬ Joins ops op v := by
    rintro v hv ⟨hop, -⟩
    cases hj.1.symm.trans hop
    exact hw hv
  obtain ⟨hjoined, hprecedes⟩ := h.cons hstay
  have hlast := joined?_cons_of_joins hj
  constructor
  · exact List.forall_mem_append.2 ⟨hjoined, List.forall_mem_singleton.2 ⟨_, hlast⟩⟩
  · refine List.pairwise_append.2 ⟨hprecedes, List.pairwise_singleton _ _, fun v hv w' hw' => ?_⟩
    cases List.mem_singleton.1 hw'
    obtain ⟨i, hi⟩ := h.joined v hv
    refine ⟨i, ops.length, ?_, hlast, lt_length_of_joined? hi⟩
    rw [joined?_cons_of_not (hstay v hv)]
    exact hi

/-- Who comes first in the queue last joined it before all others did. -/
lemma InOrder.head {queue : List WorkerId} (h : InOrder ops (w :: queue)) :
    ∃ i, joined? w ops = some i ∧ ∀ v ∈ queue, ∃ j, joined? v ops = some j ∧ i < j := by
  obtain ⟨i, hi⟩ := h.joined w List.mem_cons_self
  refine ⟨i, hi, fun v hv => ?_⟩
  obtain ⟨i', j, hi', hj, hlt⟩ := (List.pairwise_cons.1 h.precedes).1 v hv
  cases hi.symm.trans hi'
  exact ⟨j, hj, hlt⟩

/-- Workers wait in the order in which they joined. -/
lemma inOrder_after (ops : List Operation) : InOrder ops (after ops).queue := by
  induction ops with
  | nil => exact ⟨nofun, .nil⟩
  | cons op ops ih =>
    have hsound := sound_after ops
    cases op with
    | markReady w =>
      change InOrder _ ((after ops).markReady w).2.queue
      by_cases hidle : (after ops).state? w = some .idle
      · rw [markReady_of_idle hidle]
        refine ih.cons ?_
        rintro v hv ⟨hop, hjoins⟩
        cases hop
        rw [markReady_of_idle hidle] at hjoins
        cases hjoins
      · rw [queue_markReady hidle]
        have hout : w ∉ (after ops).queue := fun hw => hidle ((hsound.mem_iff w).1 hw)
        exact ih.join hout ⟨rfl, markReady_fst_of_not_idle hidle⟩
    | next =>
      have hrest : ((after ops).perform .next).queue.Sublist (after ops).queue := by
        unfold perform
        cases hn : (after ops).next? with
        | none => exact .refl _
        | some r =>
          obtain ⟨hq, -⟩ := next?_eq_some hn
          rw [hq]
          exact List.sublist_cons_self _ _
      exact (ih.sublist hrest).cons fun v _ hj => nomatch hj.1
    | remove w =>
      have hrest : ((after ops).remove w).queue.Sublist (after ops).queue := List.filter_sublist
      exact (ih.sublist hrest).cons fun v _ hj => nomatch hj.1

/-! ### What the operations do -/

/-- The queue that some operations have led to is one of the idle workers, without repetition, and
each further operation does the following to it. -/
structure Fifo (ops : List Operation) : Prop where
  /-- Nobody waits twice, and those who wait are the idle workers. -/
  sound : (after ops).Sound
  /-- For an idle worker alone, becoming ready does nothing. -/
  declines w : (after ops).markReady w = (false, after ops) ↔ (after ops).state? w = some .idle
  /-- Any other worker joins the end of the queue, as an idle one. -/
  queues w : (after ops).state? w ≠ some .idle →
    ((after ops).markReady w).1 = true ∧
      ((after ops).markReady w).2.queue = (after ops).queue ++ [w] ∧
      ((after ops).markReady w).2.state? w = some .idle ∧
      ∀ v, v ≠ w → ((after ops).markReady w).2.state? v = (after ops).state? v
  /-- Nobody is taken if and only if nobody is idle. -/
  idles : (after ops).next? = none ↔ ∀ w, (after ops).state? w ≠ some .idle
  /-- Who is taken is idle, last joined the queue before all other idle workers did, and becomes
  busy. -/
  takes w r : (after ops).next? = some (w, r) →
    (after ops).state? w = some .idle ∧
      (∃ i, joined? w ops = some i ∧ ∀ v, v ≠ w → (after ops).state? v = some .idle →
        ∃ j, joined? v ops = some j ∧ i < j) ∧
      r.state? w = some .busy ∧
      (∀ v, v ≠ w → r.state? v = (after ops).state? v) ∧
      (after ops).queue = w :: r.queue
  /-- Who is removed is forgotten, and the others stay in their order. -/
  forgets w : ((after ops).remove w).state? w = none ∧
    (∀ v, v ≠ w → ((after ops).remove w).state? v = (after ops).state? v) ∧
    ((after ops).remove w).queue = (after ops).queue.filter (· ≠ w)

/-- Whatever operations there were on the queue, it is a queue of the idle workers, of which the one
comes first that has waited longest. -/
theorem fifo_after (ops : List Operation) : Fifo ops := by
  have hsound := sound_after ops
  refine ⟨hsound, fun w => markReady_eq_iff, fun w hw => ?_, ?_, fun w r hn => ?_, fun w => ?_⟩
  · exact ⟨markReady_fst_of_not_idle hw, queue_markReady hw, state?_markReady_self _ w,
      fun v hv => state?_markReady_of_ne hv⟩
  · rw [next?_eq_none_iff, List.eq_nil_iff_forall_not_mem]
    exact forall_congr' fun w => not_congr (hsound.mem_iff w)
  · obtain ⟨hq, hbusy, hothers⟩ := next?_eq_some hn
    have horder := inOrder_after ops
    rw [hq] at horder
    obtain ⟨i, hi, hfirst⟩ := horder.head
    refine ⟨hsound.idle_of_next hn, ⟨i, hi, fun v hv hidle => hfirst v ?_⟩, hbusy, hothers, hq⟩
    have hmem : v ∈ (after ops).queue := (hsound.mem_iff v).2 hidle
    rw [hq] at hmem
    exact (List.mem_cons.1 hmem).resolve_left hv
  · exact ⟨state?_remove_self _ w, fun v hv => state?_remove_of_ne hv, rfl⟩

/-- A worker that is taken and becomes ready again waits behind the other one. -/
example : (after [.markReady ⟨[1]⟩, .next, .markReady ⟨[2]⟩, .markReady ⟨[1]⟩]).queue =
    [⟨[2]⟩, ⟨[1]⟩] := by decide

end Wayfinding.ReadyQueue
