import Wayfinding.Broker.ReadyQueue
import Wayfinding.Proofs.Lookup

/-!
# The ready queue as a queue of idle workers

What each operation of the ready queue does to the state of a worker, and the invariant
`ReadyQueue.Sound` that all of them keep: nobody waits twice, and those who wait are the idle ones.

Main lemmas: `Sound.markReady`, `Sound.next`, `Sound.remove`.
-/

namespace Wayfinding.ReadyQueue

variable {q : ReadyQueue} {v w : WorkerId} {s : WorkerState} {ws : List WorkerId}

/-- A worker is in the state that was set for it last. -/
@[simp] lemma state?_setState_self (q : ReadyQueue) (w : WorkerId) (s : WorkerState)
    (ws : List WorkerId) : state? ⟨ws, q.setState w s⟩ w = some s := by
  simp [state?, setState]

/-- Putting the state of a worker leaves those of others. -/
lemma state?_setState_of_ne (h : v ≠ w) : state? ⟨ws, q.setState w s⟩ v = q.state? v := by
  have hvw : w ≠ v := Ne.symm h
  simp only [state?, setState, List.find?_cons, hvw, decide_false]
  exact congrArg _ (find?_filter_of_ne q.states h)

/-- A worker whose state is dropped has none. -/
@[simp] lemma state?_others_self (q : ReadyQueue) (w : WorkerId) (ws : List WorkerId) :
    state? ⟨ws, q.others w⟩ w = none :=
  Option.map_eq_none_iff.2 (find?_filter_self q.states w)

/-- Leaving out a worker leaves the others. -/
lemma state?_others_of_ne (h : v ≠ w) : state? ⟨ws, q.others w⟩ v = q.state? v :=
  congrArg _ (find?_filter_of_ne q.states h)

/-- A worker that becomes ready is idle. -/
@[simp] lemma state?_markReady_self (q : ReadyQueue) (w : WorkerId) :
    (q.markReady w).2.state? w = some .idle := by
  unfold markReady
  split
  · assumption
  · exact state?_setState_self ..

/-- A worker that gets ready leaves the others. -/
lemma state?_markReady_of_ne (h : v ≠ w) : (q.markReady w).2.state? v = q.state? v := by
  unfold markReady
  split
  · rfl
  · exact state?_setState_of_ne h

/-- A worker that was not idle joins the end of the queue. -/
lemma queue_markReady (h : q.state? w ≠ some .idle) : (q.markReady w).2.queue = q.queue ++ [w] := by
  unfold markReady
  split
  · contradiction
  · rfl

/-- A forgotten worker has no state. -/
@[simp] lemma state?_remove_self (q : ReadyQueue) (w : WorkerId) : (q.remove w).state? w = none :=
  state?_others_self ..

/-- A worker that is removed leaves the others. -/
lemma state?_remove_of_ne (h : v ≠ w) : (q.remove w).state? v = q.state? v :=
  state?_others_of_ne h

/-- What taking a worker from the queue amounts to. -/
lemma next?_eq_some {r : ReadyQueue} (h : q.next? = some (w, r)) :
    q.queue = w :: r.queue ∧ r.state? w = some .busy ∧ ∀ v, v ≠ w → r.state? v = q.state? v := by
  unfold next? at h
  split at h
  · simp at h
  · next hq =>
    simp only [Option.some.injEq, Prod.mk.injEq] at h
    obtain ⟨rfl, rfl⟩ := h
    exact ⟨hq, state?_setState_self .., fun v hv => state?_setState_of_ne hv⟩

/-- Nobody waits twice, and those who wait are the idle ones. -/
structure Sound (q : ReadyQueue) : Prop where
  nodup : q.queue.Nodup
  mem_iff : ∀ w, w ∈ q.queue ↔ q.state? w = some .idle

namespace Sound

/-- The empty queue is sound. -/
lemma empty : Sound {} := ⟨.nil, by simp [state?]⟩

/-- A sound queue stays sound when a worker becomes ready. -/
lemma markReady (h : q.Sound) (w : WorkerId) : (q.markReady w).2.Sound := by
  by_cases hw : q.state? w = some .idle
  · have hq : (q.markReady w).2 = q := by simp [ReadyQueue.markReady, hw]
    rw [hq]
    exact h
  · have hmem : w ∉ q.queue := fun hm => hw ((h.mem_iff w).1 hm)
    refine ⟨?_, fun v => ?_⟩
    · rw [queue_markReady hw]
      refine List.nodup_append.2 ⟨h.nodup, by simp, ?_⟩
      intro a ha b hb e
      rw [List.mem_singleton.1 hb] at e
      exact hmem (e ▸ ha)
    · rw [queue_markReady hw]
      by_cases hv : v = w
      · subst hv
        simp
      · rw [state?_markReady_of_ne hv, ← h.mem_iff]
        simp [hv]

/-- A sound queue stays sound when a worker is taken from it. -/
lemma next {r : ReadyQueue} (h : q.Sound) (hn : q.next? = some (w, r)) : r.Sound := by
  obtain ⟨hq, hw, hv⟩ := next?_eq_some hn
  have hnd := h.nodup
  rw [hq, List.nodup_cons] at hnd
  refine ⟨hnd.2, fun v => ?_⟩
  by_cases hvw : v = w
  · subst hvw
    simp [hnd.1, hw]
  · rw [hv v hvw, ← h.mem_iff, hq]
    simp [hvw]

/-- A sound queue stays sound when a worker is forgotten. -/
lemma remove (h : q.Sound) (w : WorkerId) : (q.remove w).Sound := by
  refine ⟨h.nodup.filter _, fun v => ?_⟩
  by_cases hv : v = w
  · subst hv
    simp [ReadyQueue.remove]
  · rw [state?_remove_of_ne hv, ← h.mem_iff]
    simp [ReadyQueue.remove, hv]

/-- The worker that is taken from a sound queue was idle. -/
lemma idle_of_next {r : ReadyQueue} (h : q.Sound) (hn : q.next? = some (w, r)) :
    q.state? w = some .idle :=
  (h.mem_iff w).1 ((next?_eq_some hn).1 ▸ List.mem_cons_self)

end Sound

end Wayfinding.ReadyQueue
