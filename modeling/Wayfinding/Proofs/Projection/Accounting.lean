import Wayfinding.Proofs.Lookup
import Wayfinding.Proofs.Projection.Recency

/-!
# The accounts of a cache

A worker that looks for a location asks the cache, and only when the cache has none it asks the
engine and stores what that has found. Others may come between these steps. Every step is put on
record, with the caches before and after it, so that the counters of a cache can be compared with
what has happened: the calls are the lookups, and the misses are the lookups after which the engine
is asked. An engine that finds nothing or crashes leaves no more than a call and a miss behind.

Main definitions:
* `Deed.Changes`: what a step does to the cache of its graph.
* `Inquiry.Conduct`: what a worker has done for an inquiry, and what it has left to do.
* `Survey.Recorded`: runs with a record of their steps.
* `Survey.Audited`: the counters, and all steps, are in order.

Main statement: `Survey.Recorded.audited`.
-/

namespace Wayfinding

/-! ### Steps on record -/

/-- What a worker does in one step while it looks for a location. -/
inductive Deed where
  /-- It is told the location by the cache. -/
  | found (l : Location)
  | missed
  | projected
  | stored (l : Location)
deriving DecidableEq

/-- A step of a worker, with the caches before and after it. -/
structure Posting where
  worker : Nat
  graph : Graph
  key : Coordinate
  deed : Deed
  before : Caches
  after : Caches

namespace Deed

/-- Whether the cache was asked. -/
def isLookup : Deed → Bool
  | found _ | missed => true
  | projected | stored _ => false

/-- What a step for a coordinate does to the cache of its graph. -/
inductive Changes (key : Coordinate) : Deed → Cache → Cache → Prop where
  | found {c : Cache} {l : Location} :
    c.find? key = some l →
    Changes key (found l) c { c with entries := (key, l) :: c.others key, calls := c.calls + 1 }
  | missed {c : Cache} :
    c.find? key = none →
    Changes key missed c { c with calls := c.calls + 1, misses := c.misses + 1 }
  | projected {c : Cache} :
    Changes key projected c c
  | stored {c : Cache} {l : Location} :
    Changes key (stored l) c (c.store key l)

end Deed

namespace Posting

/-- The step changes nothing but the cache of its graph, and this as its deed says. -/
structure Sound (t : Posting) : Prop where
  own : t.deed.Changes t.key (t.before.get t.graph) (t.after.get t.graph)
  others : ∀ g, g ≠ t.graph → t.after.get g = t.before.get g

/-- A coordinate was looked up in vain. -/
def Misses (g : Graph) (key : Coordinate) (t : Posting) : Prop :=
  t.graph = g ∧ t.key = key ∧ t.deed = .missed

instance {g : Graph} {key : Coordinate} : DecidablePred (Misses g key) :=
  fun t => inferInstanceAs (Decidable (t.graph = g ∧ t.key = key ∧ t.deed = .missed))

/-- A location was stored for a coordinate. -/
def Stores (g : Graph) (key : Coordinate) (l : Location) (t : Posting) : Prop :=
  t.graph = g ∧ t.key = key ∧ t.deed = .stored l

/-- A location was stored, and the coordinate was not looked up in vain since. -/
def Stocks (g : Graph) (key : Coordinate) (l : Location) (postings : List Posting) : Prop :=
  ∃ t ∈ postings.takeWhile (¬Misses g key ·), t.Stores g key l

/-- How many steps on a graph are of one kind. -/
def count (g : Graph) (p : Deed → Bool) (postings : List Posting) : Nat :=
  postings.countP fun t => t.graph = g && p t.deed

/-- What one worker has done, the latest first. -/
def deedsOf (worker : Nat) (postings : List Posting) : List Deed :=
  (postings.filter (·.worker = worker)).map (·.deed)

/-- The steps follow each other, from empty caches to the present ones. -/
def Chained (capacity : Graph → Nat) : Caches → List Posting → Prop
  | now, [] => now = .ofCapacities capacity
  | now, t :: postings => t.after = now ∧ Chained capacity t.before postings

end Posting

/-! ### Inquiries -/

/-- What a worker looks for, and the engine that it may ask. -/
structure Inquiry where
  engine : Engine
  costing : Costing
  key : Coordinate

namespace Inquiry

/-- The graph whose cache is asked. -/
def graph (a : Inquiry) : Graph := a.costing.mode.graph

/-- What the engine has to say. -/
def outcome (a : Inquiry) : Except Crash (Option Location) := a.engine.project a.key a.costing

/-- What the worker goes through that looks for the coordinate. -/
def procedure (a : Inquiry) : Procedure (Option Location) :=
  Projections.consultCached a.engine a.costing a.key

/-- What is left of an inquiry after a miss. -/
def asking (a : Inquiry) : Procedure (Option Location) :=
  (Projections.consult a.engine a.costing a.key).bind (Projections.remember a.graph a.key)

/-- What is left of an inquiry after the engine was asked: a location that it has found is stored,
and otherwise there is nothing left to do. -/
def heard (a : Inquiry) : Except Crash (Option Location) → Procedure (Option Location)
  | .ok (some l) => .store a.graph a.key l (.done (some l))
  | .ok none => .done none
  | .error crash => .halt (.crashed crash)

/-- What is left of an inquiry after the cache was asked. -/
def told (a : Inquiry) : Option Location → Procedure (Option Location)
  | some l => .done (some l)
  | none => a.asking

/-- What a worker has done for an inquiry, the latest deed first, and what it has left to do. The
engine is asked once after a miss and never else, and the location that the worker ends with is the
one that it was told by the cache, or the one that the engine has found. -/
inductive Conduct (a : Inquiry) : List Deed → Procedure (Option Location) → Prop where
  | begun :
    Conduct a [] a.procedure
  | found (l : Location) :
    Conduct a [.found l] (.done (some l))
  | missed :
    Conduct a [.missed] a.asking
  | located {l : Location} :
    a.outcome = .ok (some l) →
    Conduct a [.projected, .missed] (.store a.graph a.key l (.done (some l)))
  | stored {l : Location} :
    a.outcome = .ok (some l) →
    Conduct a [.stored l, .projected, .missed] (.done (some l))
  | unlocated :
    a.outcome = .ok none →
    Conduct a [.projected, .missed] (.done none)
  | crashed {crash : Crash} :
    a.outcome = .error crash →
    Conduct a [.projected, .missed] (.halt (.crashed crash))

end Inquiry

namespace Procedure

variable {α : Type}

/-- What the next step of a procedure does, and for which coordinate. -/
def deed? : Procedure α → Shared → Option (Graph × Coordinate × Deed)
  | lookup g key _, s =>
    match (s.caches.lookup g key).1 with
    | some l => some (g, key, .found l)
    | none => some (g, key, .missed)
  | store g key l _, _ => some (g, key, .stored l)
  | call (.project key mode) _, _ => some (mode.graph, key, .projected)
  | _, _ => none

/-- Whether the next step of a procedure asks the engine for a location on a graph. -/
def asksEngine (g : Graph) : Procedure α → Bool
  | call (.project _ mode) _ => mode.graph = g
  | _ => false

end Procedure

namespace Survey

/-- What the next step of a worker puts on record. -/
def posting? (v : Survey) (i : Nat) : Option Posting := do
  let p ← v.tasks[i]?
  let (graph, key, deed) ← p.deed? v.shared
  return ⟨i, graph, key, deed, v.shared.caches, (p.step v.shared).2.caches⟩

/-- The runs of any workers, with what each looks for, and with the steps, the latest first. -/
inductive Recorded (capacity : Graph → Nat) : Survey → List Inquiry → List Posting → Prop where
  | start :
    Recorded capacity (start capacity) [] []
  | ask {v : Survey} {inquiries : List Inquiry} {postings : List Posting} (a : Inquiry) :
    Recorded capacity v inquiries postings →
    Recorded capacity (v.ask a.engine a.costing a.key) (inquiries ++ [a]) postings
  | move {v : Survey} {inquiries : List Inquiry} {postings : List Posting} (i : Nat) :
    Recorded capacity v inquiries postings →
    Recorded capacity (v.move i) inquiries ((v.posting? i).toList ++ postings)

/-- The books of the caches are in order. -/
structure Audited (capacity : Graph → Nat) (v : Survey) (inquiries : List Inquiry)
    (postings : List Posting) : Prop where
  /-- A call is counted for each lookup. -/
  calls : ∀ g, (v.shared.caches.get g).calls = Posting.count g Deed.isLookup postings
  /-- A miss is counted for each lookup in vain. -/
  missed : ∀ g, (v.shared.caches.get g).misses = Posting.count g (· = .missed) postings
  /-- These are the lookups after which the engine was asked, or is to be asked next. -/
  misses : ∀ g, (v.shared.caches.get g).misses =
    Posting.count g (· = .projected) postings + v.tasks.countP (·.asksEngine g)
  misses_le : ∀ g, (v.shared.caches.get g).misses ≤ (v.shared.caches.get g).calls
  /-- Each worker goes through its inquiry. -/
  conduct : ∀ (i : Nat) p, v.tasks[i]? = some p →
    ∃ a, inquiries[i]? = some a ∧ a.Conduct (Posting.deedsOf i postings) p
  about : ∀ t ∈ postings, ∃ a, inquiries[t.worker]? = some a ∧ t.graph = a.graph ∧ t.key = a.key
  sound : ∀ t ∈ postings, t.Sound
  chained : Posting.Chained capacity v.shared.caches postings
  /-- What a cache tells about a coordinate was stored for it since it was last looked up in
  vain. -/
  stocked : ∀ later t earlier l, postings = later ++ t :: earlier → t.deed = .found l →
    Posting.Stocks t.graph t.key l earlier

end Survey

/-! ### What one step does -/

/-- A lookup that finds the coordinate makes its entry the most recent one and is counted. -/
lemma Cache.lookup_of_find? {c : Cache} {key : Coordinate} {l : Location}
    (h : c.find? key = some l) :
    (c.lookup key).2 = { c with entries := (key, l) :: c.others key, calls := c.calls + 1 } := by
  simp only [lookup, h]

namespace Deed

variable {key k : Coordinate} {l : Location} {d : Deed} {c c' : Cache}

/-- A deed is counted as a call if it is a lookup. -/
lemma Changes.calls (h : d.Changes key c c') : c'.calls = c.calls + d.isLookup.toNat := by
  cases h <;> rfl

/-- A deed is counted as a miss if it is a lookup in vain. -/
lemma Changes.misses (h : d.Changes key c c') :
    c'.misses = c.misses + (decide (d = .missed)).toNat := by
  cases h <;> rfl

/-- A cache tells nothing new about a coordinate, unless it was stored. -/
lemma Changes.find? (h : d.Changes key c c') (hf : c'.find? k = some l) :
    c.find? k = some l ∨ k = key ∧ d = .stored l := by
  -- what is behind the front one was there before
  have hbehind (l' : Location) (hne : k ≠ key)
      (hf : (((key, l') :: c.others key).find? fun e => e.1 = k).map (·.2) = some l) :
      c.find? k = some l := by
    rw [List.find?_cons_of_neg (by simpa using hne.symm)] at hf
    rw [Cache.find?, ← find?_filter_of_ne c.entries hne]
    exact hf
  cases h with
  | @found _ l' hl =>
    by_cases hk : k = key
    · subst hk
      have hfront : some l' = some l := by simpa [Cache.find?] using hf
      exact .inl (hl.trans hfront)
    · exact .inl (hbehind l' hk hf)
  | missed _ => exact .inl hf
  | projected => exact .inl hf
  | @stored _ l' =>
    obtain ⟨e, he, rfl⟩ := Option.map_eq_some_iff.1 hf
    have hall := (List.take_prefix _ _).find?_eq_some he
    by_cases hk : k = key
    · subst hk
      obtain rfl : (k, l') = e := by simpa using hall
      exact .inr ⟨rfl, rfl⟩
    · exact .inl (hbehind l' hk (Option.map_eq_some_iff.2 ⟨e, hall, rfl⟩))

/-- What a lookup tells was in the cache. -/
lemma Changes.find?_of_found (h : Changes key (.found l) c c') : c.find? key = some l := by
  cases h with
  | found hf => exact hf

/-- What a lookup misses was not in the cache. -/
lemma Changes.find?_of_missed (h : Changes key .missed c c') : c.find? key = none := by
  cases h with
  | missed hf => exact hf

end Deed

namespace Inquiry

variable {a : Inquiry} {d : Deed} {ds : List Deed} {p : Procedure (Option Location)} {s : Shared}

/-- The next step of a procedure is a deed for an inquiry. -/
structure Acts (a : Inquiry) (d : Deed) (p : Procedure (Option Location)) (s : Shared) : Prop where
  deed : p.deed? s = some (a.graph, a.key, d)
  own : d.Changes a.key (s.caches.get a.graph) ((p.step s).2.caches.get a.graph)
  others : ∀ g, g ≠ a.graph → (p.step s).2.caches.get g = s.caches.get g
  /-- A miss puts the worker before the engine, and asking the engine takes it on from there. -/
  asks : ∀ g, (p.asksEngine g).toNat + (a.graph = g && d = .missed : Bool).toNat =
    ((p.step s).1.asksEngine g).toNat + (a.graph = g && d = .projected : Bool).toNat

/-- The calls of a graph go up with a lookup on this graph, and with nothing else. -/
lemma Acts.calls (h : a.Acts d p s) (g : Graph) :
    ((p.step s).2.caches.get g).calls =
      (s.caches.get g).calls + (a.graph = g && d.isLookup : Bool).toNat := by
  by_cases hg : a.graph = g
  · subst hg
    simpa using h.own.calls
  · rw [h.others g (Ne.symm hg)]
    simp [hg]

/-- The misses of a graph go up with a lookup in vain on this graph, and with nothing else. -/
lemma Acts.misses (h : a.Acts d p s) (g : Graph) :
    ((p.step s).2.caches.get g).misses =
      (s.caches.get g).misses + (a.graph = g && d = .missed : Bool).toNat := by
  by_cases hg : a.graph = g
  · subst hg
    simpa using h.own.misses
  · rw [h.others g (Ne.symm hg)]
    simp [hg]

/-- A deed that changes the cache of its own graph only is one of the inquiry. -/
lemma Acts.of_set {p' : Procedure (Option Location)} {cache : Cache}
    (hstep : p.step s = (p', { s with caches := s.caches.set a.graph cache }))
    (hdeed : p.deed? s = some (a.graph, a.key, d))
    (hown : d.Changes a.key (s.caches.get a.graph) cache)
    (hasks : ∀ g, (p.asksEngine g).toNat + (a.graph = g && d = .missed : Bool).toNat =
      (p'.asksEngine g).toNat + (a.graph = g && d = .projected : Bool).toNat) : a.Acts d p s where
  deed := hdeed
  own := by
    rw [hstep]
    change d.Changes a.key _ ((s.caches.set a.graph cache).get a.graph)
    rw [Caches.get_set_self]
    exact hown
  others g hg := by
    rw [hstep]
    exact Caches.get_set_of_ne _ _ hg
  asks g := by
    rw [hstep]
    exact hasks g

/-- The first step of a worker is its lookup. -/
lemma procedure_step (a : Inquiry) (s : Shared) :
    a.procedure.step s = (a.told ((s.caches.get a.graph).find? a.key),
      { s with caches := s.caches.set a.graph ((s.caches.get a.graph).lookup a.key).2 }) := by
  rw [← Cache.lookup_fst]
  rfl

/-- The first step is a deed, after which the worker goes on as it must. -/
lemma step_procedure (a : Inquiry) (s : Shared) :
    ∃ d, a.Acts d a.procedure s ∧ a.Conduct [d] (a.procedure.step s).1 := by
  have hstep := a.procedure_step s
  have hdeed : a.procedure.deed? s = some (a.graph, a.key,
      ((s.caches.get a.graph).find? a.key).elim .missed .found) := by
    rw [← Cache.lookup_fst]
    change (match ((s.caches.get a.graph).lookup a.key).1 with
      | some l => some (a.graph, a.key, Deed.found l)
      | none => some (a.graph, a.key, .missed)) = _
    cases ((s.caches.get a.graph).lookup a.key).1 <;> rfl
  cases hf : (s.caches.get a.graph).find? a.key with
  | some l =>
    rw [hf] at hstep hdeed
    refine ⟨.found l, .of_set hstep hdeed ?_ fun g => ?_, ?_⟩
    · rw [Cache.lookup_of_find? hf]
      exact .found hf
    · simp [Inquiry.procedure, Projections.consultCached, Procedure.asksEngine, told]
    · rw [hstep]
      exact .found l
  | none =>
    rw [hf] at hstep hdeed
    refine ⟨.missed, .of_set hstep hdeed ?_ fun g => ?_, ?_⟩
    · rw [Cache.lookup_of_find?_eq_none hf]
      exact .missed hf
    · change 0 + (a.graph = g && true : Bool).toNat =
        (a.graph = g : Bool).toNat + (a.graph = g && false : Bool).toNat
      simp
    · rw [hstep]
      exact .missed

/-- Whoever has missed a coordinate asks the engine for it. -/
lemma asking_eq (a : Inquiry) :
    a.asking = .call (.project a.key a.costing.mode) (a.heard a.outcome) := by
  unfold asking Projections.consult Procedure.consult outcome
  cases a.engine.project a.key a.costing with
  | error crash => rfl
  | ok l => cases l <;> rfl

/-- The engine is asked once, after a lookup in vain. -/
lemma step_asking (a : Inquiry) (s : Shared) :
    a.Acts .projected a.asking s ∧ a.Conduct [.projected, .missed] (a.asking.step s).1 := by
  have hnext : a.Conduct [.projected, .missed] (a.heard a.outcome) ∧
      ∀ g, (a.heard a.outcome).asksEngine g = false := by
    cases ho : a.outcome with
    | error crash => exact ⟨.crashed ho, fun _ => rfl⟩
    | ok l =>
      cases l with
      | none => exact ⟨.unlocated ho, fun _ => rfl⟩
      | some l => exact ⟨.located ho, fun _ => rfl⟩
  rw [asking_eq]
  refine ⟨⟨rfl, .projected, fun _ _ => rfl, fun g => ?_⟩, hnext.1⟩
  change (a.graph = g : Bool).toNat + (a.graph = g && false : Bool).toNat =
    ((a.heard a.outcome).asksEngine g).toNat + (a.graph = g && true : Bool).toNat
  rw [hnext.2 g]
  simp

/-- A worker that has not ended acts for its inquiry. -/
lemma Conduct.step (h : a.Conduct ds p) (s : Shared) :
    (p.deed? s = none ∧ p.step s = (p, s)) ∨
      ∃ d, a.Acts d p s ∧ a.Conduct (d :: ds) (p.step s).1 := by
  cases h with
  | begun => exact .inr (a.step_procedure s)
  | found l => exact .inl ⟨rfl, rfl⟩
  | missed => exact .inr ⟨_, a.step_asking s⟩
  | @located l hl =>
    refine .inr ⟨.stored l, .of_set rfl rfl .stored fun g => ?_, .stored hl⟩
    simp [Procedure.asksEngine]
  | stored hl => exact .inl ⟨rfl, rfl⟩
  | unlocated h => exact .inl ⟨rfl, rfl⟩
  | crashed h => exact .inl ⟨rfl, rfl⟩

end Inquiry

/-! ### What a run comes to -/

namespace Posting

variable {g : Graph} {key : Coordinate} {l : Location} {t : Posting} {postings : List Posting}

/-- A posting adds to the count of its own graph. -/
lemma count_cons (g : Graph) (p : Deed → Bool) (t : Posting) (postings : List Posting) :
    count g p (t :: postings) = count g p postings + (t.graph = g && p t.deed : Bool).toNat := by
  rw [count, List.countP_cons, count]
  cases (t.graph = g && p t.deed : Bool) <;> rfl

/-- Not more lookups are in vain than there are. -/
lemma count_missed_le (g : Graph) (postings : List Posting) :
    count g (· = .missed) postings ≤ count g Deed.isLookup postings := by
  refine List.countP_mono_left fun t _ ht => ?_
  obtain ⟨hg, hd⟩ : t.graph = g ∧ t.deed = .missed := by simpa using ht
  simp [hg, hd, Deed.isLookup]

/-- A posting is the latest deed of its worker. -/
lemma deedsOf_cons_self (t : Posting) (postings : List Posting) :
    deedsOf t.worker (t :: postings) = t.deed :: deedsOf t.worker postings := by
  simp [deedsOf]

/-- A posting is no deed of the other workers. -/
lemma deedsOf_cons_of_ne {i : Nat} (h : t.worker ≠ i) :
    deedsOf i (t :: postings) = deedsOf i postings := by
  simp [deedsOf, h]

/-- What is in stock stays there until a lookup misses it. -/
lemma Stocks.cons (h : Stocks g key l postings) (ht : ¬t.Misses g key) :
    Stocks g key l (t :: postings) := by
  obtain ⟨t', ht', hs⟩ := h
  refine ⟨t', ?_, hs⟩
  rw [List.takeWhile_cons_of_pos (by simpa using ht)]
  exact List.mem_cons_of_mem _ ht'

/-- What is stored is in stock. -/
lemma Stores.stocks (h : t.Stores g key l) (postings : List Posting) :
    Stocks g key l (t :: postings) := by
  have hmiss : ¬t.Misses g key := fun hm => by
    have := hm.2.2.symm.trans h.2.2
    cases this
  refine ⟨t, ?_, h⟩
  rw [List.takeWhile_cons_of_pos (by simpa using hmiss)]
  exact List.mem_cons_self

end Posting

namespace Survey

variable {v : Survey} {capacity : Graph → Nat} {a : Inquiry} {inquiries : List Inquiry}
  {postings : List Posting} {t : Posting}

/-- What the caches tell was stored since it was last missed. -/
def Stocked (s : Shared) (postings : List Posting) : Prop :=
  ∀ g key l, (s.caches.get g).find? key = some l → Posting.Stocks g key l postings

/-- The books, with what is needed to keep them. -/
structure Kept (capacity : Graph → Nat) (v : Survey) (inquiries : List Inquiry)
    (postings : List Posting) : Prop extends v.Audited capacity inquiries postings where
  length_eq : inquiries.length = v.tasks.length
  stocks : Stocked v.shared postings

/-- At the start there is nothing to keep. -/
lemma kept_start (capacity : Graph → Nat) : (start capacity).Kept capacity [] [] where
  calls g := by cases g <;> rfl
  missed g := by cases g <;> rfl
  misses g := by cases g <;> rfl
  misses_le g := by cases g <;> exact Nat.le_refl 0
  conduct _ _ h := by cases h
  about _ h := by cases h
  sound _ h := by cases h
  chained := rfl
  stocked later t earlier l h := by simp at h
  length_eq := rfl
  stocks g key l h := by cases g <;> cases h

/-- Who has not begun has done nothing. -/
lemma Kept.deedsOf_length (h : v.Kept capacity inquiries postings) :
    Posting.deedsOf v.tasks.length postings = [] := by
  refine List.map_eq_nil_iff.2 (List.filter_eq_nil_iff.2 fun t ht hw => ?_)
  obtain ⟨a, ha, -⟩ := h.about t ht
  have hlt := (List.getElem?_eq_some_iff.1 ha).1
  rw [h.length_eq, of_decide_eq_true hw] at hlt
  exact Nat.lt_irrefl _ hlt

/-- One more inquiry changes nothing that is kept. -/
lemma Kept.ask (h : v.Kept capacity inquiries postings) (a : Inquiry) :
    (v.ask a.engine a.costing a.key).Kept capacity (inquiries ++ [a]) postings where
  calls := h.calls
  missed := h.missed
  misses g := by
    have hasks : a.procedure.asksEngine g = false := rfl
    change _ = _ + (v.tasks ++ [a.procedure]).countP _
    rw [List.countP_append, List.countP_singleton, hasks]
    exact h.misses g
  misses_le := h.misses_le
  conduct i p hp := by
    change (v.tasks ++ [a.procedure])[i]? = some p at hp
    by_cases hi : i < v.tasks.length
    · rw [List.getElem?_append_left hi] at hp
      obtain ⟨a', ha', hconduct⟩ := h.conduct i p hp
      exact ⟨a', List.getElem?_append_left (List.getElem?_eq_some_iff.1 ha').1 ▸ ha', hconduct⟩
    · have hlt := (List.getElem?_eq_some_iff.1 hp).1
      rw [List.length_append, List.length_singleton] at hlt
      obtain rfl : i = v.tasks.length := by omega
      rw [List.getElem?_concat_length] at hp
      cases hp
      refine ⟨a, h.length_eq ▸ List.getElem?_concat_length, ?_⟩
      rw [h.deedsOf_length]
      exact .begun
  about t ht := by
    obtain ⟨a', ha', habout⟩ := h.about t ht
    exact ⟨a', List.getElem?_append_left (List.getElem?_eq_some_iff.1 ha').1 ▸ ha', habout⟩
  sound := h.sound
  chained := h.chained
  stocked := h.stocked
  length_eq := by
    change _ = (v.tasks ++ [_]).length
    simp [h.length_eq]
  stocks := h.stocks

/-- A deed that is posted leaves in stock what the cache holds. -/
lemma Stocked.step {d : Deed} {p : Procedure (Option Location)} {s : Shared}
    (h : Stocked s postings) (ha : a.Acts d p s) (hg : t.graph = a.graph) (hk : t.key = a.key)
    (hd : t.deed = d) : Stocked (p.step s).2 (t :: postings) := by
  intro g key l hf
  by_cases hgraph : g = a.graph
  · subst hgraph
    obtain hold | ⟨rfl, rfl⟩ := ha.own.find? hf
    · refine (h _ _ _ hold).cons fun ⟨_, hkey, hmissed⟩ => ?_
      -- a coordinate that was there is not missed
      obtain rfl : d = .missed := hd.symm.trans hmissed
      obtain rfl : a.key = key := hk.symm.trans hkey
      rw [ha.own.find?_of_missed] at hold
      cases hold
    · exact Posting.Stores.stocks ⟨hg, hk, hd⟩ postings
  · rw [ha.others g hgraph] at hf
    exact (h g key l hf).cons fun hmiss => hgraph (hmiss.1.symm.trans hg)

/-- A deed that is posted keeps the books in order. -/
lemma Kept.act (h : v.Kept capacity inquiries postings) {i : Nat} {d : Deed}
    {p : Procedure (Option Location)} (hp : v.tasks[i]? = some p) (ha : inquiries[i]? = some a)
    (hacts : a.Acts d p v.shared)
    (hconduct : a.Conduct (d :: Posting.deedsOf i postings) (p.step v.shared).1) :
    (v.move i).Kept capacity inquiries
      (⟨i, a.graph, a.key, d, v.shared.caches, (p.step v.shared).2.caches⟩ :: postings) := by
  set posting : Posting := ⟨i, a.graph, a.key, d, v.shared.caches, (p.step v.shared).2.caches⟩
  have hmove : v.move i = { shared := (p.step v.shared).2
                            tasks := v.tasks.set i (p.step v.shared).1
                            touches := (p.touch? v.shared).toList ++ v.touches } := by
    simp only [Survey.move, hp]
  have hcalls (g : Graph) : ((p.step v.shared).2.caches.get g).calls =
      Posting.count g Deed.isLookup (posting :: postings) := by
    rw [hacts.calls, h.calls, Posting.count_cons]
  have hmissed (g : Graph) : ((p.step v.shared).2.caches.get g).misses =
      Posting.count g (· = .missed) (posting :: postings) := by
    rw [hacts.misses, h.missed, Posting.count_cons]
  rw [hmove]
  refine ⟨⟨hcalls, hmissed, fun g => ?_, fun g => ?_, fun j q hq => ?_, ?_, ?_, ⟨rfl, h.chained⟩,
    ?_⟩, ?_, ?_⟩
  · have htasks := countP_set_add (fun q => q.asksEngine g) hp (p.step v.shared).1
    have hasks := hacts.asks g
    have hmisses := h.misses g
    rw [hacts.misses, Posting.count_cons]
    change _ + (a.graph = g && d = .missed : Bool).toNat =
      _ + (a.graph = g && d = .projected : Bool).toNat +
        (v.tasks.set i (p.step v.shared).1).countP fun q => q.asksEngine g
    omega
  · rw [hcalls, hmissed]
    exact Posting.count_missed_le g _
  · by_cases hij : i = j
    · subst hij
      rw [List.getElem?_set_self (List.getElem?_eq_some_iff.1 hp).1] at hq
      cases hq
      exact ⟨a, ha, (Posting.deedsOf_cons_self posting postings).symm ▸ hconduct⟩
    · rw [List.getElem?_set_ne hij] at hq
      rw [Posting.deedsOf_cons_of_ne hij]
      exact h.conduct j q hq
  · exact List.forall_mem_cons.2 ⟨⟨a, ha, rfl, rfl⟩, h.about⟩
  · exact List.forall_mem_cons.2 ⟨⟨hacts.own, hacts.others⟩, h.sound⟩
  · intro later t earlier l hpostings hfound
    cases later with
    | nil =>
      cases hpostings
      obtain rfl : d = .found l := hfound
      exact h.stocks _ _ _ hacts.own.find?_of_found
    | cons t' later =>
      cases hpostings
      exact h.stocked later t earlier l rfl hfound
  · rw [List.length_set]
    exact h.length_eq
  · exact h.stocks.step hacts rfl rfl rfl

/-- A step of any worker keeps the books in order, whether there is something to post or not. -/
lemma Kept.move (h : v.Kept capacity inquiries postings) (i : Nat) :
    (v.move i).Kept capacity inquiries ((v.posting? i).toList ++ postings) := by
  cases hp : v.tasks[i]? with
  | none =>
    have hmove : v.move i = v := by simp only [Survey.move, hp]
    have hposting : v.posting? i = none := by simp only [posting?, hp]; rfl
    rw [hmove, hposting]
    exact h
  | some p =>
    obtain ⟨a, ha, hconduct⟩ := h.conduct i p hp
    obtain ⟨hdeed, hstep⟩ | ⟨d, hacts, hnext⟩ := hconduct.step v.shared
    · -- the worker has ended
      have hposting : v.posting? i = none := by simp [posting?, hp, hdeed]
      have htasks : v.tasks.set i p = v.tasks := by
        obtain ⟨hlt, rfl⟩ := List.getElem?_eq_some_iff.1 hp
        exact List.set_getElem_self hlt
      have hmove : v.move i = { v with touches := (p.touch? v.shared).toList ++ v.touches } := by
        simp only [Survey.move, hp, hstep, htasks]
      rw [hmove, hposting]
      exact ⟨⟨h.calls, h.missed, h.misses, h.misses_le, h.conduct, h.about, h.sound, h.chained,
        h.stocked⟩, h.length_eq, h.stocks⟩
    · have hposting : v.posting? i =
          some ⟨i, a.graph, a.key, d, v.shared.caches, (p.step v.shared).2.caches⟩ := by
        simp [posting?, hp, hacts.deed]
      rw [hposting]
      exact h.act hp ha hacts hnext

/-- The books are in order in every run that is recorded. -/
lemma Recorded.kept (h : Recorded capacity v inquiries postings) :
    v.Kept capacity inquiries postings := by
  induction h with
  | start => exact kept_start capacity
  | ask a _ ih => exact ih.ask a
  | move i _ ih => exact ih.move i

/-- Every run can be recorded, and what is recorded is a run. -/
lemma reachable_iff_recorded :
    v.Reachable capacity ↔ ∃ inquiries postings, Recorded capacity v inquiries postings := by
  constructor
  · intro h
    induction h with
    | start => exact ⟨[], [], .start⟩
    | ask engine costing key _ ih =>
      obtain ⟨inquiries, postings, hrecorded⟩ := ih
      exact ⟨_, postings, hrecorded.ask ⟨engine, costing, key⟩⟩
    | move i _ ih =>
      obtain ⟨inquiries, postings, hrecorded⟩ := ih
      exact ⟨inquiries, _, hrecorded.move i⟩
  · rintro ⟨inquiries, postings, h⟩
    induction h with
    | start => exact .start
    | ask a _ ih => exact .ask _ _ _ ih
    | move i _ ih => exact .move i ih

/-- Whatever the workers look for, and in whatever order they take their steps, the books of the
caches are in order: the counters tell how often they were asked, and how often the engine was asked
in their place; who is told a location by a cache does not ask the engine, and who asks the engine
in vain changes nothing but the two counters; and every location that a worker ends with was stored
for its very coordinate, or has just been found. -/
theorem Recorded.audited (h : Recorded capacity v inquiries postings) :
    v.Audited capacity inquiries postings :=
  h.kept.toAudited

/-- Steps in any order can be recorded. -/
lemma Recorded.moves (h : Recorded capacity v inquiries postings) (order : List Nat) :
    ∃ postings', Recorded capacity (order.foldl Survey.move v) inquiries postings' := by
  induction order generalizing v postings with
  | nil => exact ⟨postings, h⟩
  | cons i order ih => exact ih (h.move i)

/-- An engine that finds nothing at the first milestone, and crashes at the second. -/
def potholes : Engine :=
  (Engine.fixed (milestone 0) none []).failing [(milestone 2, .silent)] [milestone 1] none

/-- Two workers look for the milestones at which the engine fails, two more for the third, and the
last one tries the first milestone again. -/
def attempts : List Inquiry :=
  [1, 2, 3, 3, 1].map fun n => ⟨potholes, default, milestone n⟩

/-- The failed attempts take turns with the others; the last worker has not asked the engine yet. -/
def retry : Survey :=
  let asked := attempts.foldl (fun v a => v.ask a.engine a.costing a.key) (start fun _ => 2)
  [0, 1, 2, 0, 2, 2, 1, 3, 4].foldl move asked

/-- The cache was asked five times, and four times in vain: it still knows the third milestone
only. -/
theorem audited_retry :
    (retry.shared.caches.get .pedestrian).stats = ⟨5, 4, 1, 2⟩ ∧
      retry.tasks.map (·.outcome?) =
        [some (.ok none), some (.error (.crashed .silent)),
          some (.ok (some ⟨milestone 3, milestone 3⟩)),
          some (.ok (some ⟨milestone 3, milestone 3⟩)), none] ∧
      ∃ postings, Recorded (fun _ => 2) retry attempts postings ∧
        retry.Audited (fun _ => 2) attempts postings := by
  have hasked : Recorded (fun _ => 2)
      (attempts.foldl (fun v a => v.ask a.engine a.costing a.key) (start fun _ => 2))
      attempts [] :=
    .ask _ (.ask _ (.ask _ (.ask _ (.ask _ .start))))
  obtain ⟨postings, hrecorded⟩ := hasked.moves [0, 1, 2, 0, 2, 2, 1, 3, 4]
  exact ⟨by decide +kernel, by decide +kernel, postings, hrecorded, hrecorded.audited⟩

end Survey

end Wayfinding
