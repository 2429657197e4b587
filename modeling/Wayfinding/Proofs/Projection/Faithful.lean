import Mathlib.Data.List.Basic
import Mathlib.Tactic.Lemma
import Wayfinding.Projection.Cache
import Wayfinding.Road.Fixed
import Wayfinding.Road.StraightLine

/-!
# Faithful caches

Workers look coordinates up in the caches that they share, and store what the engine has found for
them. Whatever they do, and in whatever order, a cache holds nothing but what the engine finds on
its graph. An engine that finds the same for all modes on a graph would find what a hit tells.

Main definitions: `Engine.Locates`, `Engine.Steady`, `Caches.Reachable`.
Main statement: `Caches.Reachable.locates`.
-/

namespace Wayfinding

namespace Engine

variable {e : Engine} {costing : Costing} {c : Coordinate} {l : Location}

/-- The engine finds a location for a coordinate in some mode that travels on the graph. -/
def Locates (e : Engine) (g : Graph) (c : Coordinate) (l : Location) : Prop :=
  ∃ costing : Costing, costing.mode.graph = g ∧ e.project c costing = .ok (some l)

/-- Of all that a request asks for, the engine heeds only the graph when it projects a
coordinate. -/
def Steady (e : Engine) : Prop :=
  ∀ c (k k' : Costing), k.mode.graph = k'.mode.graph → e.project c k = e.project c k'

/-- A steady engine projects a coordinate to where it locates it. -/
lemma Steady.project (h : e.Steady) (hl : e.Locates costing.mode.graph c l) :
    e.project c costing = .ok (some l) := by
  obtain ⟨costing', hg, hp⟩ := hl
  rw [h c costing costing' hg.symm]
  exact hp

/-- The straight-line engine is steady. -/
lemma steady_straightLine (s : StraightLine) : s.engine.Steady :=
  fun _ _ _ _ => rfl

/-- A steady engine stays so when some of its answers fail. -/
lemma Steady.failing (h : e.Steady) (crashes : List (Coordinate × Crash))
    (missing : List Coordinate) (searchCrash : Option Crash) :
    (e.failing crashes missing searchCrash).Steady := by
  intro c k k' hg
  simp only [Engine.failing, h c k k' hg]

end Engine

namespace Cache

variable {c : Cache} {key : Coordinate} {l : Location} {entry : Coordinate × Location}

/-- The entries of others are entries. -/
lemma mem_of_mem_others (h : entry ∈ c.others key) : entry ∈ c.entries :=
  (List.mem_filter.1 h).1

/-- What is found is an entry. -/
lemma mem_of_find? (h : c.find? key = some l) : (key, l) ∈ c.entries := by
  obtain ⟨⟨key', l'⟩, hf, rfl⟩ := Option.map_eq_some_iff.1 h
  obtain rfl : key' = key := by simpa using List.find?_some hf
  exact List.mem_of_find?_eq_some hf

/-- A lookup adds no entry. -/
lemma mem_of_mem_lookup (h : entry ∈ (c.lookup key).2.entries) : entry ∈ c.entries := by
  unfold lookup at h
  split at h
  · next hf =>
    rcases List.mem_cons.1 h with rfl | ho
    · exact mem_of_find? hf
    · exact mem_of_mem_others ho
  · exact h

/-- A store adds one entry. -/
lemma mem_of_mem_store (h : entry ∈ (c.store key l).entries) :
    entry = (key, l) ∨ entry ∈ c.entries := by
  rcases List.mem_cons.1 (List.mem_of_mem_take h) with rfl | ho
  · exact .inl rfl
  · exact .inr (mem_of_mem_others ho)

end Cache

namespace Caches

variable {e : Engine} {capacity : Graph → Nat} {c : Caches} {g : Graph} {key : Coordinate}
  {l : Location}

/-- The states of the caches in runs of any workers: each looks coordinates up, and stores what the
engine has found for one. -/
inductive Reachable (e : Engine) (capacity : Graph → Nat) : Caches → Prop where
  | empty :
    Reachable e capacity (.ofCapacities capacity)
  | lookup {c : Caches} (g : Graph) (key : Coordinate) :
    Reachable e capacity c →
    Reachable e capacity (c.lookup g key).2
  | store {c : Caches} {g : Graph} {key : Coordinate} {l : Location} :
    Reachable e capacity c →
    e.Locates g key l →
    Reachable e capacity (c.store g key l)

/-- The caches hold what the engine finds. -/
def Faithful (e : Engine) (c : Caches) : Prop :=
  ∀ g, ∀ entry ∈ (c.get g).entries, e.Locates g entry.1 entry.2

/-- Empty caches hold nothing wrong. -/
lemma faithful_ofCapacities (e : Engine) (capacity : Graph → Nat) :
    (ofCapacities capacity).Faithful e := by
  intro g entry h
  cases g <;> cases h

/-- A cache whose entries are right may replace another one. -/
lemma Faithful.set {cache : Cache} (h : c.Faithful e)
    (hc : ∀ entry ∈ cache.entries, e.Locates g entry.1 entry.2) : (c.set g cache).Faithful e := by
  intro g' entry he
  by_cases hg : g' = g
  · subst hg
    rw [get_set_self] at he
    exact hc entry he
  · rw [get_set_of_ne c cache hg] at he
    exact h g' entry he

/-- A lookup makes nothing wrong. -/
lemma Faithful.lookup (h : c.Faithful e) : (c.lookup g key).2.Faithful e :=
  h.set fun entry he => h g entry (Cache.mem_of_mem_lookup he)

/-- A store of what the engine has found makes nothing wrong. -/
lemma Faithful.store (h : c.Faithful e) (hl : e.Locates g key l) :
    (c.store g key l).Faithful e := by
  apply h.set
  intro entry he
  rcases Cache.mem_of_mem_store he with rfl | hold
  · exact hl
  · exact h g entry hold

/-- Caches hold what the engine has found, in every run. -/
lemma Reachable.faithful (h : c.Reachable e capacity) : c.Faithful e := by
  induction h with
  | empty => exact faithful_ofCapacities e capacity
  | lookup g key _ ih => exact ih.lookup
  | store _ hl ih => exact ih.store hl

/-- What is found in a cache is what the engine finds. -/
lemma Reachable.locates (h : c.Reachable e capacity) (hl : (c.lookup g key).1 = some l) :
    e.Locates g key l := by
  have hf : (c.get g).find? key = some l := by
    rw [← Cache.lookup_fst]
    exact hl
  exact h.faithful g (key, l) (Cache.mem_of_find? hf)

end Caches

end Wayfinding
