import Mathlib.Data.List.Nodup
import Wayfinding.Projection.Batch
import Wayfinding.Proofs.Projection.Faithful

/-!
# What a cache remembers

Workers look for the locations of coordinates in the caches that they share. A lookup that finds
nothing and the store that follows it are two steps, between which others may store the same
coordinate, or fill the cache. Whatever the order of their steps, a cache remembers exactly the
coordinates that were touched last, as many as it has room for.

Main definitions: `Touch.recentKeys`, `Touch.latest?`, `Cache.KeepsRecent`, `Cache.LeastRecentOut`,
`Survey.Reachable`.
Main lemmas: `promote_take`, `Survey.recent_step`, `Survey.Reachable.leastRecentOut`.
-/

namespace Wayfinding

/-! ### Keys by their last touch -/

section Keys

variable {κ : Type} [DecidableEq κ] {k : κ} {ks : List κ} {n : Nat}

/-- Keys may be left out before or after their repetitions are. -/
lemma eraseDups_filter (p : κ → Bool) (ks : List κ) :
    (ks.filter p).eraseDups = ks.eraseDups.filter p := by
  cases ks with
  | nil => rfl
  | cons k ks =>
    -- the rest without the key is shorter, also when the key is kept
    have hrest := eraseDups_filter p (ks.filter fun l => !l == k)
    rw [List.eraseDups_cons]
    cases hp : p k with
    | true =>
      rw [List.filter_cons_of_pos hp, List.eraseDups_cons, List.filter_cons_of_pos hp, ← hrest,
        List.filter_comm]
    | false =>
      have hskip : (ks.filter fun l => !l == k).filter p = ks.filter p := by
        rw [List.filter_filter]
        refine List.filter_congr fun l _ => ?_
        by_cases hl : l = k
        · simp [hl, hp]
        · simp [hl]
      rw [List.filter_cons_of_neg (by simp [hp]), List.filter_cons_of_neg (by simp [hp]), ← hrest,
        hskip]
termination_by ks.length
decreasing_by exact Nat.lt_succ_of_le (List.length_filter_le _ _)

/-- The distinct keys of a list, its first one ahead of the others. -/
lemma eraseDups_cons_eq (k : κ) (ks : List κ) :
    (k :: ks).eraseDups = k :: ks.eraseDups.filter (· ≠ k) := by
  rw [List.eraseDups_cons, eraseDups_filter]
  congr 2
  funext l
  by_cases hl : l = k <;> simp [hl]

/-- Distinct keys do not repeat. -/
lemma nodup_eraseDups (ks : List κ) : ks.eraseDups.Nodup := by
  induction ks with
  | nil => exact .nil
  | cons k ks ih =>
    rw [eraseDups_cons_eq]
    exact List.nodup_cons.2 ⟨fun hk => by simp at hk, ih.filter _⟩

/-- The first keys of a list after a key has come to the front. -/
def promote (n : Nat) (k : κ) (ks : List κ) : List κ := (k :: ks.filter (· ≠ k)).take n

/-- A key that is not there need not be left out. -/
lemma filter_ne_of_notMem (h : k ∉ ks) : ks.filter (· ≠ k) = ks :=
  List.filter_eq_self.2 fun l hl => decide_eq_true fun hlk : l = k => h (hlk ▸ hl)

/-- Without one key, of the others no more than the first ones matter. -/
lemma take_filter_take (h : ks.Nodup) :
    ((ks.take (n + 1)).filter (· ≠ k)).take n = (ks.filter (· ≠ k)).take n := by
  induction ks generalizing n with
  | nil => rfl
  | cons l ks ih =>
    obtain ⟨hl, hks⟩ := List.nodup_cons.1 h
    rw [List.take_succ_cons]
    by_cases hlk : l = k
    · subst hlk
      rw [List.filter_cons_of_neg (by simp), List.filter_cons_of_neg (by simp),
        filter_ne_of_notMem fun hmem => hl (List.mem_of_mem_take hmem), filter_ne_of_notMem hl,
        List.take_take, Nat.min_self]
    · have hkept (ms : List κ) : (l :: ms).filter (· ≠ k) = l :: ms.filter (· ≠ k) :=
        List.filter_cons_of_pos (decide_eq_true hlk)
      rw [hkept, hkept]
      cases n with
      | zero => rfl
      | succ n => rw [List.take_succ_cons, List.take_succ_cons, ih hks]

/-- Of keys without repetition no more than the first ones matter. -/
lemma promote_take (h : ks.Nodup) : promote n k (ks.take n) = promote n k ks := by
  cases n with
  | zero => rfl
  | succ n => exact congrArg (k :: ·) (take_filter_take h)

/-- A key that is there changes its place. -/
lemma promote_of_mem (hk : k ∈ ks) (hlen : ks.length ≤ n) :
    promote n k ks = k :: ks.filter (· ≠ k) := by
  have hless : (ks.filter (· ≠ k)).length < ks.length :=
    List.length_filter_lt_length_iff_exists.2 ⟨k, hk, by simp⟩
  apply List.take_of_length_le
  rw [List.length_cons]
  omega

/-- A new key is added when there is a place for it. -/
lemma promote_of_lt (hk : k ∉ ks) (hlen : ks.length < n) : promote n k ks = k :: ks := by
  rw [promote, filter_ne_of_notMem hk]
  exact List.take_of_length_le hlen

/-- A new key takes the place of the last one when there is no other place. -/
lemma promote_concat {init : List κ} {last : κ} (hk : k ∉ init ++ [last]) :
    promote (init.length + 1) k (init ++ [last]) = k :: init := by
  rw [promote, filter_ne_of_notMem hk, List.take_succ_cons, List.take_left]

/-- A key that comes to the front displaces another one only if it is new and there is no place for
it; then it is the last one. -/
lemma notMem_promote_iff {l : κ} (h : ks.Nodup) (hlen : ks.length ≤ n) (hl : l ∈ ks) :
    l ∉ promote n k ks ↔ k ∉ ks ∧ ks.length = n ∧ ks.getLast? = some l := by
  by_cases hk : k ∈ ks
  · refine iff_of_false (fun hout => hout ?_) fun h => h.1 hk
    rw [promote_of_mem hk hlen]
    by_cases hlk : l = k
    · exact List.mem_cons.2 (.inl hlk)
    · exact List.mem_cons_of_mem k (List.mem_filter.2 ⟨hl, decide_eq_true hlk⟩)
  · rcases Nat.lt_or_eq_of_le hlen with hlt | rfl
    · rw [promote_of_lt hk hlt]
      exact iff_of_false (fun hout => hout (List.mem_cons_of_mem k hl)) fun h =>
        Nat.ne_of_lt hlt h.2.1
    · obtain ⟨init, last, rfl⟩ :=
        (List.eq_nil_or_concat' ks).resolve_left (List.ne_nil_of_mem hl)
      obtain ⟨-, -, hdisjoint⟩ := List.nodup_append.1 h
      rw [List.length_append, List.length_singleton, promote_concat hk, List.getLast?_concat,
        Option.some_inj]
      constructor
      · intro hout
        have hinit : l ∉ init := fun hinit => hout (List.mem_cons_of_mem k hinit)
        have hlast : l = last := by simpa [hinit] using hl
        exact ⟨hk, rfl, hlast.symm⟩
      · rintro ⟨-, -, rfl⟩ hin
        have hne : last ≠ k := fun hlk => hk (hlk ▸ hl)
        have hinit : last ∈ init := by simpa [hne] using hin
        exact hdisjoint last hinit last (List.mem_singleton_self last) rfl

end Keys

/-! ### Touches -/

/-- A coordinate has become the most recent one of a cache: it was found there, or stored. -/
structure Touch where
  graph : Graph
  key : Coordinate
  /-- What was stored, unless the coordinate was found. -/
  stored : Option Location
deriving DecidableEq

namespace Touch

/-- The touches of the cache of a graph. -/
def on (g : Graph) (touches : List Touch) : List Touch := touches.filter (·.graph = g)

/-- The coordinates that were touched, the one that was touched last first. -/
def recentKeys (touches : List Touch) : List Coordinate := (touches.map (·.key)).eraseDups

/-- What was stored last for a coordinate. -/
def latest? (touches : List Touch) (key : Coordinate) : Option Location :=
  touches.findSome? fun t => if t.key = key then t.stored else none

variable {t : Touch} {touches : List Touch} {g : Graph} {key : Coordinate} {l : Location}

/-- Touches of a graph are added to the earlier ones of this graph. -/
lemma on_append_self {touched : List Touch} (h : ∀ t ∈ touched, t.graph = g) :
    on g (touched ++ touches) = touched ++ on g touches := by
  have hall : on g touched = touched :=
    List.filter_eq_self.2 fun t ht => decide_eq_true (h t ht)
  rw [on, List.filter_append]
  exact congrArg (· ++ on g touches) hall

/-- Touches of a graph are no touches of another one. -/
lemma on_append_of_ne {touched : List Touch} {g' : Graph} (h : ∀ t ∈ touched, t.graph = g)
    (hne : g' ≠ g) : on g' (touched ++ touches) = on g' touches := by
  have hnone : on g' touched = [] :=
    List.filter_eq_nil_iff.2 fun t ht => by simpa [h t ht] using hne.symm
  rw [on, List.filter_append]
  exact congrArg (· ++ on g' touches) hnone

/-- The coordinate that was touched last is the first one. -/
lemma recentKeys_cons :
    recentKeys (t :: touches) = t.key :: (recentKeys touches).filter (· ≠ t.key) :=
  eraseDups_cons_eq _ _

/-- Each coordinate has one place among those that were touched. -/
lemma nodup_recentKeys : (recentKeys touches).Nodup := nodup_eraseDups _

/-- A touch of another coordinate stores nothing for this one. -/
lemma latest?_of_ne (h : key ≠ t.key) : latest? (t :: touches) key = latest? touches key := by
  simp only [latest?, List.findSome?_cons, if_neg h.symm]

/-- What has just been stored was stored last. -/
lemma latest?_stored (h : t.stored = some l) : latest? (t :: touches) t.key = some l := by
  simp only [latest?, List.findSome?_cons, if_true, h]

/-- What was found is not stored again. -/
lemma latest?_found (h : t.stored = none) : latest? (t :: touches) key = latest? touches key := by
  simp only [latest?, List.findSome?_cons, h, ite_self]

end Touch

namespace Cache

variable {c : Cache} {capacity : Nat} {key : Coordinate} {l : Location} {t : Touch}
  {touches : List Touch}

/-- The remembered coordinates, the most recently touched one first. -/
def keys (c : Cache) : List Coordinate := c.entries.map (·.1)

/-- There are as many coordinates as entries. -/
lemma length_keys : c.keys.length = c.entries.length := List.length_map _

/-- What is found is what is remembered. -/
lemma find?_eq_none_iff : c.find? key = none ↔ key ∉ c.keys := by
  rw [find?, Option.map_eq_none_iff, List.find?_eq_none, keys, List.mem_map]
  constructor
  · rintro hall ⟨entry, hentry, rfl⟩
    exact hall entry hentry (decide_eq_true rfl)
  · intro hnot entry hentry heq
    exact hnot ⟨entry, hentry, of_decide_eq_true heq⟩

/-- A coordinate that is remembered is found. -/
lemma exists_find?_of_mem_keys (h : key ∈ c.keys) : ∃ l, c.find? key = some l :=
  Option.ne_none_iff_exists'.1 fun hnone => find?_eq_none_iff.1 hnone h

/-- A store brings its coordinate to the front. -/
lemma keys_store : (c.store key l).keys = promote c.capacity key c.keys := by
  have hothers : (c.others key).map (·.1) = c.keys.filter (· ≠ key) := by
    rw [keys, List.filter_map]
    rfl
  rw [keys, store, List.map_take, List.map_cons, hothers]
  rfl

/-- When a coordinate is found, it is as if what is found were stored once more. -/
lemma entries_lookup_of_find? (h : c.find? key = some l) (hb : c.entries.length ≤ c.capacity) :
    (c.lookup key).2.entries = (c.store key l).entries := by
  have hless : (c.others key).length < c.entries.length :=
    List.length_filter_lt_length_iff_exists.2 ⟨_, mem_of_find? h, by simp⟩
  have hall : ((key, l) :: c.others key).length ≤ c.capacity := by
    rw [List.length_cons]
    omega
  simp only [lookup, h, store, List.take_of_length_le hall]

/-- A lookup that finds its coordinate brings it to the front. -/
lemma keys_lookup_of_find? (h : c.find? key = some l) (hb : c.entries.length ≤ c.capacity) :
    (c.lookup key).2.keys = promote c.capacity key c.keys := by
  rw [← keys_store (l := l), keys, keys, entries_lookup_of_find? h hb]

/-- A lookup that finds nothing changes nothing but the counters. -/
lemma lookup_of_find?_eq_none (h : c.find? key = none) :
    (c.lookup key).2 = { c with calls := c.calls + 1, misses := c.misses + 1 } := by
  simp only [lookup, h]

/-- The coordinates that were touched last are remembered, as many as the capacity allows and in
this order, and for each what was stored last. -/
structure KeepsRecent (c : Cache) (capacity : Nat) (touches : List Touch) : Prop where
  limit : c.capacity = capacity
  keys : c.keys = (Touch.recentKeys touches).take capacity
  values : ∀ entry ∈ c.entries, Touch.latest? touches entry.1 = some entry.2

namespace KeepsRecent

/-- A cache without entries keeps all that was touched, which is nothing. -/
lemma empty (capacity : Nat) : KeepsRecent { capacity := capacity } capacity [] :=
  ⟨rfl, List.take_nil.symm, List.forall_mem_nil _⟩

/-- A coordinate has at most one entry. -/
lemma nodup_keys (h : c.KeepsRecent capacity touches) : c.keys.Nodup := by
  rw [h.keys]
  exact Touch.nodup_recentKeys.sublist (List.take_sublist _ _)

/-- A cache never has more entries than it has room for. -/
lemma length_le (h : c.KeepsRecent capacity touches) : c.entries.length ≤ capacity := by
  rw [← length_keys, h.keys]
  exact List.length_take_le _ _

/-- A lookup answers for the coordinates that were touched last, and for no other. -/
lemma lookup_eq (h : c.KeepsRecent capacity touches) (key : Coordinate) :
    (c.lookup key).1 =
      if key ∈ (Touch.recentKeys touches).take capacity then Touch.latest? touches key
      else none := by
  rw [lookup_fst, ← h.keys]
  split
  · next hk =>
    obtain ⟨l, hl⟩ := exists_find?_of_mem_keys hk
    rw [hl]
    exact (h.values _ (mem_of_find? hl)).symm
  · next hk => exact find?_eq_none_iff.2 hk

/-- A touch brings its coordinate to the front. -/
lemma promote_keys (h : c.KeepsRecent capacity touches) (t : Touch) :
    promote c.capacity t.key c.keys = (Touch.recentKeys (t :: touches)).take capacity := by
  rw [h.limit, h.keys, Touch.recentKeys_cons]
  exact promote_take Touch.nodup_recentKeys

/-- A store is a touch. -/
lemma store (h : c.KeepsRecent capacity touches) (g : Graph) (key : Coordinate) (l : Location) :
    (c.store key l).KeepsRecent capacity (⟨g, key, some l⟩ :: touches) := by
  refine ⟨h.limit, keys_store.trans (h.promote_keys ⟨g, key, some l⟩), fun entry hentry => ?_⟩
  rcases List.mem_cons.1 (List.mem_of_mem_take hentry) with rfl | hother
  · exact Touch.latest?_stored rfl
  · have hne : entry.1 ≠ key := of_decide_eq_true (List.mem_filter.1 hother).2
    rw [Touch.latest?_of_ne hne]
    exact h.values entry (mem_of_mem_others hother)

/-- A lookup that finds its coordinate is a touch. -/
lemma hit (h : c.KeepsRecent capacity touches) (g : Graph) (hl : c.find? key = some l) :
    (c.lookup key).2.KeepsRecent capacity (⟨g, key, none⟩ :: touches) := by
  have hb : c.entries.length ≤ c.capacity := h.limit.symm ▸ h.length_le
  refine ⟨?_, (keys_lookup_of_find? hl hb).trans (h.promote_keys ⟨g, key, none⟩),
    fun entry hentry => ?_⟩
  · rw [capacity_lookup]
    exact h.limit
  · rw [Touch.latest?_found rfl]
    exact h.values entry (mem_of_mem_lookup hentry)

/-- A lookup that finds nothing is no touch. -/
lemma miss (h : c.KeepsRecent capacity touches) (hl : c.find? key = none) :
    (c.lookup key).2.KeepsRecent capacity touches := by
  rw [lookup_of_find?_eq_none hl]
  exact ⟨h.limit, h.keys, h.values⟩

end KeepsRecent

/-- A cache in which the least recent coordinates make room for others: it remembers what was
touched last and never too much, and tells it to whoever asks; a store forgets nothing but the least
recent coordinate, and this only to make room for a new one; and without a capacity there is nothing
to remember. -/
structure LeastRecentOut (c : Cache) (capacity : Nat) (touches : List Touch) : Prop extends
    c.KeepsRecent capacity touches where
  bounded : c.entries.length ≤ capacity
  answers : ∀ key, (c.lookup key).1 =
    if key ∈ (Touch.recentKeys touches).take capacity then Touch.latest? touches key else none
  forgets : ∀ key l k, k ∈ c.keys →
    (k ∉ (c.store key l).keys ↔
      key ∉ c.keys ∧ c.entries.length = capacity ∧ c.keys.getLast? = some k)
  idle : capacity = 0 → c.entries = [] ∧ ∀ key l, (c.store key l).entries = []

/-- All of this follows from what the cache keeps. -/
lemma LeastRecentOut.of_keepsRecent (h : c.KeepsRecent capacity touches) :
    c.LeastRecentOut capacity touches := by
  refine ⟨h, h.length_le, h.lookup_eq, fun key l k hk => ?_, fun h0 => ⟨?_, fun key l => ?_⟩⟩
  · have hlen : c.keys.length ≤ capacity := length_keys.symm ▸ h.length_le
    rw [keys_store, h.limit, notMem_promote_iff h.nodup_keys hlen hk, length_keys]
  · exact List.length_eq_zero_iff.1 (Nat.le_zero.1 (h0 ▸ h.length_le))
  · rw [Cache.store, h.limit, h0, List.take_zero]

end Cache

/-! ### Workers that share the caches -/

/-- What the next step of a procedure touches: a coordinate that is looked up while the cache
remembers it, or one that is stored. -/
def Procedure.touch? {α : Type} : Procedure α → Shared → Option Touch
  | lookup g key _, s => if key ∈ (s.caches.get g).keys then some ⟨g, key, none⟩ else none
  | store g key l _, _ => some ⟨g, key, some l⟩
  | _, _ => none

/-- Workers that look for the locations of coordinates, and what they have touched, the latest
first. -/
structure Survey where
  shared : Shared
  tasks : List (Procedure (Option Location)) := []
  touches : List Touch := []

namespace Survey

variable {v : Survey} {capacity : Graph → Nat} {g : Graph}

/-- Nobody has looked for anything. -/
def start (capacity : Graph → Nat) : Survey where
  shared := { caches := .ofCapacities capacity }

/-- One more worker begins to look for a coordinate. -/
def ask (v : Survey) (engine : Engine) (costing : Costing) (key : Coordinate) : Survey :=
  { v with tasks := v.tasks ++ [Projections.consultCached engine costing key] }

/-- A worker takes its next step. -/
def move (v : Survey) (i : Nat) : Survey :=
  match v.tasks[i]? with
  | some p =>
    { shared := (p.step v.shared).2
      tasks := v.tasks.set i (p.step v.shared).1
      touches := (p.touch? v.shared).toList ++ v.touches }
  | none => v

/-- What any workers come to that take their steps in any order. -/
inductive Reachable (capacity : Graph → Nat) : Survey → Prop where
  | start :
    Reachable capacity (start capacity)
  | ask {v : Survey} engine costing key :
    Reachable capacity v →
    Reachable capacity (v.ask engine costing key)
  | move {v : Survey} i :
    Reachable capacity v →
    Reachable capacity (v.move i)

/-- Every cache keeps what was touched last on its graph. -/
def Recent (capacity : Graph → Nat) (s : Shared) (touches : List Touch) : Prop :=
  ∀ g, (s.caches.get g).KeepsRecent (capacity g) (Touch.on g touches)

/-- What is touched on one graph concerns the cache of this graph alone. -/
lemma Recent.set {s : Shared} {touches touched : List Touch} {cache : Cache}
    (h : Recent capacity s touches) (hg : ∀ t ∈ touched, t.graph = g)
    (hc : cache.KeepsRecent (capacity g) (touched ++ Touch.on g touches)) :
    Recent capacity { s with caches := s.caches.set g cache } (touched ++ touches) := by
  intro g'
  by_cases hne : g' = g
  · subst hne
    rw [Caches.get_set_self, Touch.on_append_self hg]
    exact hc
  · rw [Caches.get_set_of_ne _ _ hne, Touch.on_append_of_ne hg hne]
    exact h g'

/-- What a step touches is what it changes about the caches. -/
lemma recent_step {s : Shared} {touches : List Touch} (h : Recent capacity s touches)
    (p : Procedure (Option Location)) :
    Recent capacity (p.step s).2 ((p.touch? s).toList ++ touches) := by
  cases p with
  | lookup g key next =>
    rw [Procedure.touch?]
    split
    · next hk =>
      obtain ⟨l, hl⟩ := Cache.exists_find?_of_mem_keys hk
      exact h.set (List.forall_mem_singleton.2 rfl) ((h g).hit g hl)
    · next hk => exact h.set (List.forall_mem_nil _) ((h g).miss (Cache.find?_eq_none_iff.2 hk))
  | store g key l next => exact h.set (List.forall_mem_singleton.2 rfl) ((h g).store g key l)
  | _ => exact h

/-- Every cache keeps what was touched last, in every run. -/
lemma Reachable.recent (h : v.Reachable capacity) : Recent capacity v.shared v.touches := by
  induction h with
  | start =>
    intro g
    cases g <;> exact .empty _
  | ask _ _ _ _ ih => exact ih
  | @move v i _ ih =>
    unfold Survey.move
    split
    · exact recent_step ih _
    · exact ih

/-- Whoever looks for locations, and in whatever order the workers take their steps: a cache
remembers exactly the coordinates that were touched last. -/
theorem Reachable.leastRecentOut (h : v.Reachable capacity) (g : Graph) :
    (v.shared.caches.get g).LeastRecentOut (capacity g) (Touch.on g v.touches) :=
  .of_keepsRecent (h.recent g)

/-- Workers may take their steps in any order. -/
lemma Reachable.moves (h : v.Reachable capacity) (order : List Nat) :
    (order.foldl Survey.move v).Reachable capacity := by
  induction order generalizing v with
  | nil => exact h
  | cons i order ih => exact ih (.move i h)

/-- Points on the equator. -/
def milestone (n : Nat) : Coordinate := ⟨.ofNat n, 0⟩

/-- Two workers look for the first milestone and do not find it, as neither has stored it yet. One
of them stores it, and the next two milestones fill the cache. Then the other one stores the first
milestone again, with a location of its own. A worker looks for the second milestone and finds it,
and the last one stores a fourth milestone. -/
def rivals : Survey :=
  let asked := (start fun _ => 3)
    |>.ask (.fixed (milestone 0) none []) default (milestone 1)
    |>.ask (.fixed (milestone 4) none []) default (milestone 1)
    |>.ask (.fixed (milestone 0) none []) default (milestone 2)
    |>.ask (.fixed (milestone 0) none []) default (milestone 3)
    |>.ask (.fixed (milestone 0) none []) default (milestone 2)
    |>.ask (.fixed (milestone 0) none []) default (milestone 4)
  [0, 1, 0, 0, 2, 2, 2, 3, 3, 3, 1, 1, 4, 5, 5, 5].foldl move asked

/-- The coordinate that was stored again has replaced none, and is remembered with what was stored
last. The one that was found is the most recent of those before the last one, and the least recent
of them has made room. -/
theorem leastRecentOut_rivals :
    rivals.Reachable (fun _ => 3) ∧
      (rivals.shared.caches.get .pedestrian).entries =
        [(milestone 4, ⟨milestone 4, milestone 4⟩), (milestone 2, ⟨milestone 2, milestone 2⟩),
          (milestone 1, ⟨milestone 1, milestone 5⟩)] ∧
      Touch.on .pedestrian rivals.touches =
        [⟨.pedestrian, milestone 4, some ⟨milestone 4, milestone 4⟩⟩,
          ⟨.pedestrian, milestone 2, none⟩,
          ⟨.pedestrian, milestone 1, some ⟨milestone 1, milestone 5⟩⟩,
          ⟨.pedestrian, milestone 3, some ⟨milestone 3, milestone 3⟩⟩,
          ⟨.pedestrian, milestone 2, some ⟨milestone 2, milestone 2⟩⟩,
          ⟨.pedestrian, milestone 1, some ⟨milestone 1, milestone 1⟩⟩] ∧
      (rivals.shared.caches.get .pedestrian).LeastRecentOut 3
        (Touch.on .pedestrian rivals.touches) := by
  have hreachable : rivals.Reachable fun _ => 3 :=
    .moves (.ask _ _ _ (.ask _ _ _ (.ask _ _ _ (.ask _ _ _ (.ask _ _ _ (.ask _ _ _ .start)))))) _
  exact ⟨hreachable, by decide +kernel, by decide +kernel, hreachable.leastRecentOut .pedestrian⟩

end Survey

end Wayfinding
