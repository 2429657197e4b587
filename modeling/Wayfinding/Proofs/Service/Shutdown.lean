import Mathlib.Logic.Relation
import Mathlib.Order.Nat
import Wayfinding.Proofs.Lookup
import Wayfinding.Service.Shutdown

/-!
# Who hears of the shutdown

The announcement is made once. It waits for each task that listens at this moment, until the task
takes it or has ended by itself. A task that begins to listen later does not hear of it: the broker,
when it begins its work after the announcement, and a connection that is accepted before the
acceptor takes the announcement.

Main definitions: `Shutdown.Run`, `Shutdown.ReachesAll`.
Main statement: `Shutdown.Reachable.reachesAll_iff`.
-/

namespace Wayfinding.Shutdown

/-- Something happens. -/
def Step (s s' : Shutdown) : Prop := ∃ e, s.step? e = some s'

/-- What happens from some moment on. -/
abbrev Run : Shutdown → Shutdown → Prop := Relation.ReflTransGen Step

/-- Once the shutdown is announced, each task has ended, or the announcement waits for it. -/
def ReachesAll (s : Shutdown) : Prop :=
  s.isTriggered = true → ∀ t ∈ s.tasks, t.ended = true ∨ s.waitsFor t = true

variable {s s' : Shutdown} {n : Nat}

/-- What can happen: the shutdown is announced, a task begins to listen, or a task ends, perhaps
with the announcement that waits for it. -/
lemma Step.cases (st : Step s s') :
    s' = s.trigger ∨ (∃ role, s' = s.subscribe role) ∨
      ∃ i t heard, s.tasks[i]? = some t ∧
        (heard = t.heard ∨ heard = s.announced ∧ s.waitsFor t = true) ∧
          s' = s.endTask i t heard := by
  obtain ⟨e, he⟩ := st
  cases e with
  | trigger => exact .inl (Option.some.inj he).symm
  | begin role =>
    simp only [step?] at he
    split at he
    · cases he
    · exact .inr (.inl ⟨role, (Option.some.inj he).symm⟩)
  | accept i =>
    simp only [step?] at he
    split at he
    · split at he
      · exact .inr (.inl ⟨_, (Option.some.inj he).symm⟩)
      · cases he
    · cases he
  | hear i =>
    simp only [step?] at he
    split at he
    · next t hi =>
      split at he
      · next hw => exact .inr (.inr ⟨i, t, _, hi, .inr ⟨rfl, hw.2⟩, (Option.some.inj he).symm⟩)
      · cases he
    · cases he
  | finish i =>
    simp only [step?] at he
    split at he
    · next t hi =>
      split at he
      · cases he
      · exact .inr (.inr ⟨i, t, _, hi, .inl rfl, (Option.some.inj he).symm⟩)
    · cases he

/-- Announcing the shutdown again changes nothing. -/
lemma trigger_of_announced (h : s.announced = 1) : s.trigger = s := by
  simp [trigger, isTriggered, h]

/-- The first trigger announces the shutdown. -/
lemma trigger_of_not_announced (h : s.announced = 0) :
    s.trigger = { s with announced := 1 } := by
  simp [trigger, isTriggered, h]

/-- Nobody has heard of what was not announced. -/
lemma Reachable.heard_le (h : Reachable s) : ∀ t ∈ s.tasks, t.heard ≤ s.announced := by
  induction h with
  | start => nofun
  | @step s s' e hr he ih =>
    rcases Step.cases ⟨e, he⟩ with rfl | ⟨role, rfl⟩ | ⟨i, t, heard, hi, hh, rfl⟩
    · intro t ht
      rcases Nat.le_one_iff_eq_zero_or_eq_one.1 (announced_le_one hr) with h₀ | h₁
      · rw [trigger_of_not_announced h₀] at ht ⊢
        exact (ih t ht).trans (h₀.trans_le (Nat.zero_le 1))
      · rw [trigger_of_announced h₁] at ht ⊢
        exact ih t ht
    · intro t ht
      rcases List.mem_append.1 ht with ht | ht
      · exact ih t ht
      · rw [List.mem_singleton.1 ht]
        exact le_rfl
    · intro u hu
      rcases List.mem_or_eq_of_mem_set hu with hu | rfl
      · exact ih u hu
      · rcases hh with rfl | ⟨rfl, -⟩
        · exact ih t (List.mem_of_getElem? hi)
        · exact le_rfl

/-- After the announcement, the first tasks are those for which it was made, and the others have
come too late. -/
structure Announced (n : Nat) (s : Shutdown) : Prop where
  once : s.announced = 1
  length : n ≤ s.tasks.length
  early : ∀ (i : Nat) (t : Task), s.tasks[i]? = some t → i < n → t.ended = true ∨ t.heard = 0
  late : ∀ (i : Nat) (t : Task), s.tasks[i]? = some t → n ≤ i → t.heard = 1

/-- The announcement is made for the tasks that listen. -/
lemma Reachable.announced_trigger (h : Reachable s) (h₀ : s.announced = 0) :
    Announced s.tasks.length s.trigger := by
  rw [trigger_of_not_announced h₀]
  refine ⟨rfl, le_rfl, fun i t hi _ => ?_, fun i t hi hn => ?_⟩
  · have hle := h.heard_le t (List.mem_of_getElem? hi)
    omega
  · have hlt := (List.getElem?_eq_some_iff.1 hi).1
    exact absurd hlt (Nat.not_lt.2 hn)

/-- A task that begins to listen has come too late. -/
lemma Announced.subscribe (h : Announced n s) (role : TaskRole) :
    Announced n (s.subscribe role) := by
  refine ⟨h.once, h.length.trans (List.sublist_append_left ..).length_le, fun i t hi hn => ?_,
    fun i t hi hn => ?_⟩
  · rw [Shutdown.subscribe, List.getElem?_append_left (hn.trans_le h.length)] at hi
    exact h.early i t hi hn
  · have hi : (s.tasks ++ [{ role := role, heard := s.announced }])[i]? = some t := hi
    rw [List.getElem?_append] at hi
    split at hi
    · exact h.late i t hi hn
    · obtain rfl := List.mem_singleton.1 (List.mem_of_getElem? hi)
      exact h.once

/-- A task that ends has come in time, or has not heard of the announcement. -/
lemma Announced.endTask {i heard : Nat} {t : Task} (h : Announced n s) (hi : s.tasks[i]? = some t)
    (hh : heard = t.heard ∨ heard = s.announced ∧ s.waitsFor t = true) :
    Announced n (s.endTask i t heard) := by
  refine ⟨h.once, h.length.trans (List.length_set ..).ge, fun j u hj hn => ?_, fun j u hj hn => ?_⟩
  · rcases of_getElem?_set hj with ⟨-, rfl⟩ | hj
    · exact .inl rfl
    · exact h.early j u hj hn
  · rcases of_getElem?_set hj with ⟨rfl, rfl⟩ | hj
    · rcases hh with rfl | ⟨rfl, -⟩
      · exact h.late i t hi hn
      · exact h.once
    · exact h.late j u hj hn

/-- Whatever happens, a task has come in time or too late. -/
lemma Announced.run (h : Announced n s) (hrun : Run s s') : Announced n s' := by
  induction hrun with
  | refl => exact h
  | tail _ st ih =>
    rcases st.cases with rfl | ⟨role, rfl⟩ | ⟨i, t, heard, hi, hh, rfl⟩
    · rwa [trigger_of_announced ih.once]
    · exact ih.subscribe role
    · exact ih.endTask hi hh

/-- The announcement waits for the tasks that have come in time, and for no others. -/
lemma Announced.waitsFor_iff {i : Nat} {t : Task} (h : Announced n s) (hi : s.tasks[i]? = some t)
    (ht : t.ended = false) : s.waitsFor t = true ↔ i < n := by
  rw [waitsFor, h.once, decide_eq_true_iff]
  constructor
  · intro hw
    by_contra hn
    have hlate := h.late i t hi (Nat.not_lt.1 hn)
    omega
  · intro hn
    rcases h.early i t hi hn with he | hheard
    · rw [ht] at he
      cases he
    · omega

/-- From the moment of the announcement on, it waits for exactly those of the tasks that go on that
listened at this moment. So the shutdown reaches everyone if and only if every task that has begun
to listen since then has ended by itself. -/
theorem Reachable.reachesAll_iff (h : Reachable s) (h₀ : s.announced = 0)
    (hrun : Run s.trigger s') :
    (∀ (i : Nat) (t : Task), s'.tasks[i]? = some t → t.ended = false →
      (s'.waitsFor t = true ↔ i < s.tasks.length)) ∧
    (s'.ReachesAll ↔ ∀ t ∈ s'.tasks.drop s.tasks.length, t.ended = true) := by
  have ha := (h.announced_trigger h₀).run hrun
  refine ⟨fun i t hi ht => ha.waitsFor_iff hi ht, fun hall t ht => ?_, fun hall _ t ht => ?_⟩
  · obtain ⟨j, hj⟩ := List.mem_iff_getElem?.1 ht
    rw [List.getElem?_drop] at hj
    have htriggered : s'.isTriggered = true := by simp [isTriggered, ha.once]
    rcases hall htriggered t (List.mem_of_getElem? hj) with he | hw
    · exact he
    · by_contra he
      have hlt := (ha.waitsFor_iff hj (Bool.not_eq_true _ ▸ he)).1 hw
      omega
  · obtain ⟨i, hi⟩ := List.mem_iff_getElem?.1 ht
    by_cases he : t.ended = true
    · exact .inl he
    · refine .inr ((ha.waitsFor_iff hi (Bool.not_eq_true _ ▸ he)).2 ?_)
      by_contra hn
      refine he (hall t (List.mem_iff_getElem?.2 ⟨i - s.tasks.length, ?_⟩))
      rw [List.getElem?_drop, Nat.add_sub_cancel' (Nat.not_lt.1 hn), hi]

/-- The acceptor takes the announcement, and a client that it has accepted before may still take it;
the shutdown reaches everyone. -/
theorem reachesAll_listening : ∃ s s' : Shutdown,
    Reachable s ∧ Run s.trigger s' ∧
      s'.tasks = [⟨.acceptor, 1, true⟩, ⟨.broker, 0, false⟩, ⟨.connection, 0, false⟩] ∧
      s'.ReachesAll := by
  have accepting : Reachable _ := .step (e := .begin .acceptor) .start rfl
  have serving : Reachable _ := .step (e := .begin .broker) accepting rfl
  have accepted : Reachable _ := .step (e := .accept 0) serving rfl
  refine ⟨_, _, accepted, .single ⟨.hear 0, rfl⟩, rfl, ?_⟩
  exact (accepted.reachesAll_iff rfl (.single ⟨.hear 0, rfl⟩)).2.2 nofun

/-- The acceptor listens, the shutdown is announced, and only then the broker begins its work. -/
theorem not_reachesAll_latecomer : ¬ ∀ s, Reachable s → s.ReachesAll := by
  intro h
  have accepting : Reachable _ := .step (e := .begin .acceptor) .start rfl
  have announced : Reachable _ := .step (e := .trigger) accepting rfl
  have late : Reachable _ := .step (e := .begin .broker) announced rfl
  have hbroker := h _ late rfl ⟨.broker, 1, false⟩ (by decide)
  revert hbroker
  decide

end Wayfinding.Shutdown
