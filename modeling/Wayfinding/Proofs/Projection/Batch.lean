import Wayfinding.Proofs.Projection.Accounting
import Wayfinding.Proofs.Projection.Located

/-!
# What a batch projection touches

A batch asks for a coordinate until it has a location for it, so that a coordinate without a
location is asked for as often as it is listed. With the cache, each time counts as a call of the
cache of one graph; the other caches, and without the cache all of them, stay as they are. What is
found depends on none of this, even if the batch displaces its own coordinates from the cache.

Main definitions:
* `Engine.location?`: the location of a coordinate, for engines that do not crash.
* `Projections.grown`, `Projections.sought`: what a batch finds, and what it asks for.
* `Projections.Sought`: how asking for some coordinates changes the shared state.

Main lemma: `Projections.run_extend`.
Main statement: `Projections.run_ofCoordinates`.
-/

namespace Wayfinding

open Procedure (Visited)

namespace Engine

variable {e : Engine} {costing : Costing} {c : Coordinate} {l : Location}

/-- No search for a location crashes. -/
def Calm (e : Engine) : Prop := ∀ c costing, ∃ l, e.project c costing = .ok l

/-- The location that the engine finds for a coordinate, if any. -/
def location? (e : Engine) (costing : Costing) (c : Coordinate) : Option Location :=
  (e.project c costing).toOption.join

/-- A calm engine tells where a coordinate is, or that it is nowhere. -/
lemma Calm.project (h : e.Calm) (costing : Costing) (c : Coordinate) :
    e.project c costing = .ok (e.location? costing c) := by
  obtain ⟨l, hl⟩ := h c costing
  rw [location?, hl]
  rfl

/-- A coordinate is where the engine projects it to. -/
lemma location?_eq_some : e.location? costing c = some l ↔ e.project c costing = .ok (some l) := by
  unfold location?
  cases e.project c costing with
  | error crash => exact iff_of_false nofun nofun
  | ok l' => exact Except.ok.injEq _ _ ▸ Iff.rfl

end Engine

namespace Projections

variable {e : Engine} {capacity : Graph → Nat} {costing : Costing} {useCache : Bool}
  {found : Projections} {c c' : Coordinate} {l : Location} {cs cs' : List Coordinate}
  {s s' s'' : Shared}

/-- What is found once a list has been gone through. -/
def grown (e : Engine) (costing : Costing) (found : Projections) : List Coordinate → Projections
  | [] => found
  | c :: cs =>
    if found.has c then grown e costing found cs
    else grown e costing (found.insert c (e.location? costing c)) cs

/-- The coordinates of a list that are asked for, as nothing is found for them yet. -/
def sought (e : Engine) (costing : Costing) (found : Projections) :
    List Coordinate → List Coordinate
  | [] => []
  | c :: cs =>
    if found.has c then sought e costing found cs
    else c :: sought e costing (found.insert c (e.location? costing c)) cs

/-- The coordinates of a list that have a location but are not found yet, each once. -/
def fresh (e : Engine) (costing : Costing) (found : Projections) (cs : List Coordinate) :
    List Coordinate :=
  (cs.filter fun c => (e.location? costing c).isSome && !found.has c).eraseDups

/-! ### What is found -/

/-- Found are the coordinates that have an entry. -/
lemma has_iff_mem : found.has c = true ↔ c ∈ found.map (·.1) := by
  simp [has]

/-- One more coordinate is found. -/
lemma has_append (found : Projections) (c c' : Coordinate) (l : Location) :
    has (found ++ [(c, l)]) c' = (found.has c' || c = c' : Bool) := by
  simp [has]

/-- What was found before is not new. -/
lemma fresh_cons_of_has (h : found.has c = true) :
    fresh e costing found (c :: cs) = fresh e costing found cs := by
  simp [fresh, h]

/-- What is nowhere is not found. -/
lemma fresh_cons_of_none (h : e.location? costing c = none) :
    fresh e costing found (c :: cs) = fresh e costing found cs := by
  simp [fresh, h]

/-- What is somewhere and was not found before is new. -/
lemma fresh_cons_of_some (hc : found.has c = false) (hl : e.location? costing c = some l) :
    fresh e costing found (c :: cs) = c :: fresh e costing (found ++ [(c, l)]) cs := by
  have hrest : (cs.filter fun c' => (e.location? costing c').isSome && !found.has c').filter
      (fun c' => !c' == c) =
        cs.filter fun c' => (e.location? costing c').isSome && !has (found ++ [(c, l)]) c' := by
    rw [List.filter_filter]
    refine List.filter_congr fun c' _ => ?_
    rw [has_append]
    grind
  rw [fresh, List.filter_cons_of_pos (by simp [hc, hl]), List.eraseDups_cons, hrest]
  rfl

/-- New coordinates come after those that were found before. -/
lemma keys_grown (found : Projections) (cs : List Coordinate) :
    (grown e costing found cs).map (·.1) = found.map (·.1) ++ fresh e costing found cs := by
  induction cs generalizing found with
  | nil => simp [grown, fresh]
  | cons c cs ih =>
    unfold grown
    split
    case isTrue hc => rw [ih, fresh_cons_of_has hc]
    case isFalse hc =>
      cases hl : e.location? costing c with
      | none => rw [insert, ih, fresh_cons_of_none hl]
      | some l =>
        rw [insert, ih, fresh_cons_of_some (Bool.not_eq_true _ ▸ hc) hl]
        simp

/-- Where nothing is found, nothing is wrong. -/
lemma agrees_nil : Agrees e costing [] := by
  intro c l h
  cases h

/-- What is found of more coordinates agrees with the engine. -/
lemma agrees_grown (h : found.Agrees e costing) (cs : List Coordinate) :
    (grown e costing found cs).Agrees e costing := by
  induction cs generalizing found with
  | nil => exact h
  | cons c cs ih =>
    unfold grown
    split
    case isTrue => exact ih h
    case isFalse =>
      cases hl : e.location? costing c with
      | none => exact ih h
      | some l => exact ih (h.append (Engine.location?_eq_some.1 hl))

/-- Exactly the listed coordinates with a location are found. -/
lemma find?_grown_iff :
    (grown e costing [] cs).find? c = some l ↔ c ∈ cs ∧ e.project c costing = .ok (some l) := by
  have hagrees : (grown e costing [] cs).Agrees e costing := agrees_grown agrees_nil cs
  have hhas : (grown e costing [] cs).has c = true ↔ c ∈ cs ∧ (e.location? costing c).isSome := by
    rw [has_iff_mem, keys_grown]
    simp [fresh, has]
  rw [has_eq_isSome] at hhas
  constructor
  · intro h
    exact ⟨(hhas.1 (h ▸ rfl)).1, hagrees c l h⟩
  · rintro ⟨hc, hl⟩
    obtain ⟨l', hl'⟩ := Option.isSome_iff_exists.1
      (hhas.2 ⟨hc, Engine.location?_eq_some.2 hl ▸ rfl⟩)
    have heq := (hagrees c l' hl').symm.trans hl
    cases heq
    exact hl'

/-- Sought are the coordinates that are new and those that are nowhere, each time again. -/
lemma length_sought (h : found.Agrees e costing) (cs : List Coordinate) :
    (sought e costing found cs).length = (fresh e costing found cs).length +
      cs.countP fun c => (e.location? costing c).isNone := by
  induction cs generalizing found with
  | nil => simp [sought, fresh]
  | cons c cs ih =>
    unfold sought
    split
    case isTrue hc =>
      obtain ⟨l, hl⟩ := Option.isSome_iff_exists.1 (has_eq_isSome found c ▸ hc)
      have hlocated := Engine.location?_eq_some.2 (h c l hl)
      rw [ih h, fresh_cons_of_has hc, List.countP_cons_of_neg (by simp [hlocated])]
    case isFalse hc =>
      cases hl : e.location? costing c with
      | none =>
        rw [insert, List.length_cons, ih h, fresh_cons_of_none hl,
          List.countP_cons_of_pos (by simp [hl])]
        rfl
      | some l =>
        rw [insert, List.length_cons, ih (h.append (Engine.location?_eq_some.1 hl)),
          fresh_cons_of_some (Bool.not_eq_true _ ▸ hc) hl, List.countP_cons_of_neg (by simp [hl]),
          List.length_cons]
        omega

/-- As long as nothing is found, everything is sought. -/
lemma sought_of_vain (h : ∀ c ∈ cs, e.location? costing c = none) :
    sought e costing [] cs = cs := by
  induction cs with
  | nil => rfl
  | cons c cs ih =>
    obtain ⟨hc, hcs⟩ := List.forall_mem_cons.1 h
    change c :: sought e costing (insert [] c (e.location? costing c)) cs = c :: cs
    rw [hc]
    exact congrArg (c :: ·) (ih hcs)

/-! ### What is touched -/

/-- All calls ask for the location of a coordinate of the list. -/
def AsksFor (costing : Costing) (cs : List Coordinate) (made : List Call) : Prop :=
  ∀ call ∈ made, ∃ c ∈ cs, call = .project c costing.mode

/-- Whoever asks for some coordinates, and then for others, asks for all of them. -/
lemma AsksFor.append {made made' : List Call} (h : AsksFor costing cs made)
    (h' : AsksFor costing cs' made') : AsksFor costing (cs ++ cs') (made' ++ made) := by
  intro call hcall
  obtain hcall | hcall := List.mem_append.1 hcall
  · obtain ⟨c, hc, heq⟩ := h' call hcall
    exact ⟨c, List.mem_append_right _ hc, heq⟩
  · obtain ⟨c, hc, heq⟩ := h call hcall
    exact ⟨c, List.mem_append_left _ hc, heq⟩

/-- How the shared state changes when a worker asks for coordinates, one after another. -/
structure Sought (e : Engine) (costing : Costing) (useCache : Bool) (cs : List Coordinate)
    (s s' : Shared) : Prop where
  calls : useCache = true → (s'.caches.get costing.mode.graph).calls =
    (s.caches.get costing.mode.graph).calls + cs.length
  others : ∀ g, g ≠ costing.mode.graph → s'.caches.get g = s.caches.get g
  uncached : useCache = false → s'.caches = s.caches
  engine : ∃ made, s'.calls = made ++ s.calls ∧ AsksFor costing cs made
  /-- Where there is nothing to be found, the engine is asked each time, and nothing is stored. -/
  vain : (∀ c ∈ cs, e.location? costing c = none) →
    s'.calls = (cs.map (Call.project · costing.mode)).reverse ++ s.calls ∧
      ∀ g, (s'.caches.get g).entries = (s.caches.get g).entries

/-- Nothing happens for no coordinate. -/
lemma Sought.nil (s : Shared) : Sought e costing useCache [] s s where
  calls _ := rfl
  others _ _ := rfl
  uncached _ := rfl
  engine := ⟨[], rfl, nofun⟩
  vain _ := ⟨rfl, fun _ => rfl⟩

/-- What happens for some coordinates, and then for others, happens for all of them. -/
lemma Sought.append (h : Sought e costing useCache cs s s')
    (h' : Sought e costing useCache cs' s' s'') :
    Sought e costing useCache (cs ++ cs') s s'' where
  calls hcache := by
    rw [h'.calls hcache, h.calls hcache, List.length_append, Nat.add_assoc]
  others g hg := (h'.others g hg).trans (h.others g hg)
  uncached hcache := (h'.uncached hcache).trans (h.uncached hcache)
  engine := by
    obtain ⟨made, hmade, hall⟩ := h.engine
    obtain ⟨made', hmade', hall'⟩ := h'.engine
    exact ⟨made' ++ made, by rw [hmade', hmade, List.append_assoc], hall.append hall'⟩
  vain hnone := by
    obtain ⟨hcalls, hentries⟩ := h.vain fun c hc => hnone c (List.mem_append_left _ hc)
    obtain ⟨hcalls', hentries'⟩ := h'.vain fun c hc => hnone c (List.mem_append_right _ hc)
    refine ⟨?_, fun g => (hentries' g).trans (hentries g)⟩
    rw [hcalls', hcalls, List.map_append, List.reverse_append, List.append_assoc]

/-- Asking the engine is one call. -/
lemma run_consult (hcalm : e.Calm) (costing : Costing) (c : Coordinate) (s : Shared) :
    (consult e costing c).run s =
      (.ok (e.location? costing c), { s with calls := .project c costing.mode :: s.calls }) := by
  rw [consult, hcalm.project]
  rfl

/-- What a cache knows is told without a call. -/
lemma run_consultCached_of_hit (e : Engine)
    (h : (s.caches.get costing.mode.graph).find? c = some l) :
    (consultCached e costing c).run s = (.ok (some l), { s with
      caches := s.caches.set costing.mode.graph
        ((s.caches.get costing.mode.graph).lookup c).2 }) := by
  let a : Inquiry := ⟨e, costing, c⟩
  change a.procedure.run s = _
  rw [← Procedure.run_step, a.procedure_step]
  change (a.told ((s.caches.get costing.mode.graph).find? c)).run _ = _
  rw [h]
  rfl

/-- What a cache does not know is asked for, and stored if it is somewhere. -/
lemma run_consultCached_of_miss (hcalm : e.Calm)
    (h : (s.caches.get costing.mode.graph).find? c = none) :
    (consultCached e costing c).run s = (.ok (e.location? costing c), { s with
      caches := (e.location? costing c).elim (s.caches.lookup costing.mode.graph c).2
        ((s.caches.lookup costing.mode.graph c).2.store costing.mode.graph c)
      calls := .project c costing.mode :: s.calls }) := by
  let a : Inquiry := ⟨e, costing, c⟩
  change a.procedure.run s = _
  rw [← Procedure.run_step, a.procedure_step]
  change (a.told ((s.caches.get costing.mode.graph).find? c)).run _ = _
  rw [h]
  change a.asking.run _ = _
  rw [a.asking_eq, Inquiry.outcome, hcalm.project]
  change (a.heard (.ok (e.location? costing c))).run _ = _
  cases e.location? costing c <;> rfl

/-- Asking the engine for one coordinate. -/
lemma sought_consult (hcalm : e.Calm) (costing : Costing) (c : Coordinate) (s : Shared) :
    Sought e costing false [c] s ((consult e costing c).run s).2 := by
  rw [run_consult hcalm]
  exact {
    calls := nofun
    others := fun _ _ => rfl
    uncached := fun _ => rfl
    engine := ⟨[_], rfl, List.forall_mem_singleton.2 ⟨c, List.mem_singleton_self c, rfl⟩⟩
    vain := fun _ => ⟨rfl, fun _ => rfl⟩ }

/-- A lookup that finds its coordinate is counted, and nothing else happens. -/
lemma sought_of_hit (e : Engine) (h : (s.caches.get costing.mode.graph).find? c = some l)
    (hl : e.location? costing c = some l) :
    Sought e costing true [c] s ((consultCached e costing c).run s).2 := by
  rw [run_consultCached_of_hit e h]
  exact {
    calls := fun _ => by simp [Cache.lookup_of_find? h]
    others := fun _ hg => Caches.get_set_of_ne _ _ hg
    uncached := nofun
    engine := ⟨[], rfl, nofun⟩
    vain := fun hnone => by
      rw [hnone c (List.mem_singleton_self c)] at hl
      cases hl }

/-- A lookup in vain is counted twice, and the engine is asked. -/
lemma sought_of_miss (hcalm : e.Calm)
    (h : (s.caches.get costing.mode.graph).find? c = none) :
    Sought e costing true [c] s ((consultCached e costing c).run s).2 := by
  rw [run_consultCached_of_miss hcalm h]
  refine ⟨fun _ => ?_, fun g hg => ?_, nofun,
    ⟨[_], rfl, List.forall_mem_singleton.2 ⟨c, List.mem_singleton_self c, rfl⟩⟩,
    fun hnone => ⟨rfl, fun g => ?_⟩⟩
  · cases e.location? costing c with
    | none => simp [Caches.lookup, Cache.lookup_of_find?_eq_none h]
    | some l => simp [Caches.lookup, Caches.store, Cache.store, Cache.lookup_of_find?_eq_none h]
  · cases e.location? costing c with
    | none => exact Caches.get_set_of_ne _ _ hg
    | some l => exact (Caches.get_set_of_ne _ _ hg).trans (Caches.get_set_of_ne _ _ hg)
  · rw [hnone c (List.mem_singleton_self c)]
    change ((s.caches.set _ _).get g).entries = _
    by_cases hg : g = costing.mode.graph
    · rw [hg, Caches.get_set_self, Cache.lookup_of_find?_eq_none h]
    · rw [Caches.get_set_of_ne _ _ hg]

/-- With and without a cache, the engine's answer is given. -/
lemma run_locate (he : e.Steady) (hcalm : e.Calm) (hs : Visited e capacity s) (costing : Costing)
    (useCache : Bool) (c : Coordinate) :
    ∃ s', (locate e costing useCache c).run s = (.ok (e.location? costing c), s') ∧
      Visited e capacity s' ∧ Sought e costing useCache [c] s s' := by
  have hsettles := settles_locate he costing useCache c
  rw [hcalm.project] at hsettles
  obtain ⟨hrun, hvisited⟩ := hsettles.run hs
  refine ⟨_, Prod.ext hrun rfl, hvisited, ?_⟩
  cases useCache with
  | false => exact sought_consult hcalm costing c s
  | true =>
    cases hf : (s.caches.get costing.mode.graph).find? c with
    | some l =>
      change ((consultCached e costing c).run s).1 = .ok (e.location? costing c) at hrun
      rw [run_consultCached_of_hit e hf] at hrun
      exact sought_of_hit e hf (Except.ok.inj hrun).symm
    | none => exact sought_of_miss hcalm hf

/-- Going through a list asks for what is not found yet, and changes nothing else. -/
lemma run_extend (he : e.Steady) (hcalm : e.Calm) (hs : Visited e capacity s) (costing : Costing)
    (useCache : Bool) (found : Projections) (cs : List Coordinate) :
    ∃ s', (extend e costing useCache found cs).run s = (.ok (grown e costing found cs), s') ∧
      Visited e capacity s' ∧ Sought e costing useCache (sought e costing found cs) s s' := by
  induction cs generalizing found s with
  | nil => exact ⟨s, rfl, hs, .nil s⟩
  | cons c cs ih =>
    unfold extend grown sought
    split
    case isTrue => exact ih hs found
    case isFalse =>
      obtain ⟨s₁, hrun, hs₁, hsought⟩ := run_locate he hcalm hs costing useCache c
      obtain ⟨s₂, hrest, hs₂, hsought'⟩ := ih hs₁ (found.insert c (e.location? costing c))
      exact ⟨s₂, (Procedure.run_bind_of_ok hrun).trans hrest, hs₂, hsought.append hsought'⟩

/-- Let the engine heed only the graph when it projects a coordinate, and never crash. Whatever the
caches remember from earlier, a batch finds the listed coordinates that have a location, each once,
with the location that the engine gives it, and this both with the cache and without. With the cache
of its graph it asks this cache once for each distinct coordinate that has a location, and each time
for one that has none; the other caches stay as they are. Without it all of them do. -/
theorem run_ofCoordinates (he : e.Steady) (hcalm : e.Calm) (hs : s.caches.Reachable e capacity)
    (costing : Costing) (cs : List Coordinate) :
    ∃ found : Projections,
      found.map (·.1) = (cs.filter fun c => (e.location? costing c).isSome).eraseDups ∧
      (∀ c l, found.find? c = some l ↔ c ∈ cs ∧ e.project c costing = .ok (some l)) ∧
      (∃ s', (ofCoordinates e costing true cs).run s = (.ok found, s') ∧
        (s'.caches.get costing.mode.graph).calls = (s.caches.get costing.mode.graph).calls +
          (cs.filter fun c => (e.location? costing c).isSome).eraseDups.length +
          cs.countP (fun c => (e.location? costing c).isNone) ∧
        ∀ g, g ≠ costing.mode.graph → s'.caches.get g = s.caches.get g) ∧
      ∃ s', (ofCoordinates e costing false cs).run s = (.ok found, s') ∧ s'.caches = s.caches := by
  have hfresh : fresh e costing [] cs =
      (cs.filter fun c => (e.location? costing c).isSome).eraseDups := by
    simp [fresh, has]
  obtain ⟨s', hrun, -, hsought⟩ := run_extend he hcalm hs costing true [] cs
  obtain ⟨s'', hrun', -, hsought'⟩ := run_extend he hcalm hs costing false [] cs
  refine ⟨grown e costing [] cs, ?_, fun c l => find?_grown_iff, ⟨s', hrun, ?_, hsought.others⟩,
    s'', hrun', hsought'.uncached rfl⟩
  · rw [keys_grown, hfresh]
    rfl
  · rw [hsought.calls rfl, length_sought agrees_nil, hfresh, Nat.add_assoc]

open Survey (milestone)

/-- An engine that finds nothing at the first milestone. -/
def roadworks : Engine := (Engine.fixed (milestone 0) none []).failing [] [milestone 1] none

/-- The engine of the example always gives the same answers. -/
lemma roadworks_steady : roadworks.Steady :=
  Engine.Steady.failing (fun _ _ _ _ => rfl) [] [milestone 1] none

/-- The engine of the example never breaks off. -/
lemma roadworks_calm : roadworks.Calm := by
  intro c costing
  change ∃ l, (if [milestone 1].contains c then Except.ok none else .ok (some _)) = .ok l
  split
  · exact ⟨_, rfl⟩
  · exact ⟨_, rfl⟩

/-- A cache with room for one location has been asked for the second milestone. -/
def afterOne : Shared :=
  ((ofCoordinates roadworks default true [milestone 2]).run
    { caches := .ofCapacities fun _ => 1 }).2

/-- The caches have come about by the answers of the engine. -/
lemma afterOne_reachable : afterOne.caches.Reachable roadworks fun _ => 1 := by
  have hempty : Visited roadworks (fun _ => 1) { caches := .ofCapacities fun _ => 1 } := .empty
  obtain ⟨s', hrun, hvisited, -⟩ :=
    run_extend roadworks_steady roadworks_calm hempty default true [] [milestone 2]
  have hafter : afterOne = s' := congrArg Prod.snd hrun
  exact hafter ▸ hvisited

/-- The first milestone is asked for twice. The third displaces the second from the cache, and yet
this is not asked for again when it is listed again. -/
theorem run_ofCoordinates_crowded :
    roadworks.Steady ∧ roadworks.Calm ∧ afterOne.caches.Reachable roadworks (fun _ => 1) ∧
      ∃ found s',
        (ofCoordinates roadworks default true ([1, 2, 3, 2, 1].map milestone)).run afterOne =
          (.ok found, s') ∧
        found.map (·.1) = [milestone 2, milestone 3] ∧
        (afterOne.caches.get .pedestrian).calls = 1 ∧
        (s'.caches.get .pedestrian).calls = 1 + 4 := by
  obtain ⟨found, hkeys, -, ⟨s', hrun, hcalls, -⟩, -⟩ := run_ofCoordinates roadworks_steady
    roadworks_calm afterOne_reachable default ([1, 2, 3, 2, 1].map milestone)
  refine ⟨roadworks_steady, roadworks_calm, afterOne_reachable, found, s', hrun, hkeys.trans ?_,
    ?_, hcalls.trans ?_⟩
  all_goals decide +kernel

end Projections

end Wayfinding
