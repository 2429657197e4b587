import Wayfinding.Projection.Batch
import Wayfinding.Proofs.Answer.Settled

/-!
# What a batch projection finds

The projection of a list of coordinates finds for each of them what the engine finds, with or
without the cache, and whatever the caches remember from earlier.

Main definitions: `Projections.Agrees`, `Projections.Completes`.
Main lemma: `Projections.settled_ofCoordinates`.
-/

namespace Wayfinding.Projections

open Procedure (Settles Settled)

variable {e : Engine} {costing : Costing} {found all : Projections} {c c' : Coordinate}
  {l : Location}

/-- Nothing was found but what the engine finds. -/
def Agrees (e : Engine) (costing : Costing) (found : Projections) : Prop :=
  ∀ c l, found.find? c = some l → e.project c costing = .ok (some l)

/-- A coordinate is among the found ones if its location is known. -/
lemma has_eq_isSome (found : Projections) (c : Coordinate) :
    found.has c = (found.find? c).isSome := by
  rw [find?, Option.isSome_map, List.isSome_find?]
  rfl

/-- One more location is known, for its own coordinate. -/
lemma find?_append (found : Projections) (c c' : Coordinate) (l : Location) :
    find? (found ++ [(c, l)]) c' = (found.find? c').or (if c = c' then some l else none) := by
  simp only [find?, List.find?_append, List.find?_singleton, Option.map_or]
  by_cases h : c = c'
  · simp [h]
  · simp [h]

/-- What is known stays known. -/
lemma find?_append_of_some (h : found.find? c' = some l) (c : Coordinate) (l' : Location) :
    find? (found ++ [(c, l')]) c' = some l := by
  rw [find?_append, h]
  rfl

/-- A location that the engine has found may be added. -/
lemma Agrees.append (h : found.Agrees e costing) (hl : e.project c costing = .ok (some l)) :
    Agrees e costing (found ++ [(c, l)]) := by
  intro c' l' hf
  rw [find?_append] at hf
  cases hc : found.find? c' with
  | some l'' =>
    rw [hc] at hf
    cases hf
    exact h c' l' hc
  | none =>
    rw [hc, Option.none_or] at hf
    split at hf
    · next heq =>
      cases hf
      exact heq ▸ hl
    · cases hf

/-- The cache changes nothing about what is found for a coordinate. -/
lemma settles_locate (he : e.Steady) (costing : Costing) (useCache : Bool) (c : Coordinate) :
    (locate e costing useCache c).Settles e ((e.project c costing).mapError .crashed) := by
  have hconsult : (consult e costing c).Settles e ((e.project c costing).mapError .crashed) :=
    Procedure.settles_consult _ _
  unfold locate
  split
  · refine .lookup ?_ fun l hl => ?_
    · -- a miss: what the engine finds is stored
      change Settles e ((consult e costing c).bind (remember costing.mode.graph c)) _
      cases hp : e.project c costing with
      | error crash =>
        rw [hp] at hconsult
        exact hconsult.bind_error _
      | ok location =>
        rw [hp] at hconsult
        apply hconsult.bind
        cases location with
        | none => exact .done
        | some l => exact .store ⟨costing, rfl, hp⟩ .done
    · rw [he.project hl]
      exact .done
  · exact hconsult

/-- The locations that were found before are completed by those of some coordinates: they are kept,
what the engine finds for the coordinates is found, and nothing else is. -/
structure Completes (e : Engine) (costing : Costing) (found : Projections) (cs : List Coordinate)
    (all : Projections) : Prop where
  agrees : all.Agrees e costing
  keeps : ∀ c l, found.find? c = some l → all.find? c = some l
  finds : ∀ c ∈ cs, e.project c costing = .ok (all.find? c)

namespace Completes

variable {cs : List Coordinate}

/-- A coordinate that was found before needs no search. -/
lemma known (h : Completes e costing found cs all) (hl : found.find? c = some l) :
    Completes e costing found (c :: cs) all := by
  refine ⟨h.agrees, h.keeps, List.forall_mem_cons.2 ⟨?_, h.finds⟩⟩
  have hall : all.find? c = some l := h.keeps c l hl
  rw [hall]
  exact h.agrees c l hall

/-- A coordinate for which the engine finds nothing is not found later either. -/
lemma vain (h : Completes e costing found cs all) (hp : e.project c costing = .ok none) :
    Completes e costing found (c :: cs) all := by
  refine ⟨h.agrees, h.keeps, List.forall_mem_cons.2 ⟨?_, h.finds⟩⟩
  cases hl : all.find? c with
  | none => exact hp
  | some l => cases hp.symm.trans (h.agrees c l hl)

/-- A coordinate for which the engine finds a location is found from then on. -/
lemma new (h : Completes e costing (found ++ [(c, l)]) cs all) (hc : found.find? c = none) :
    Completes e costing found (c :: cs) all := by
  have hl : find? (found ++ [(c, l)]) c = some l := by
    rw [find?_append, hc, Option.none_or, if_pos rfl]
  have hknown := h.known hl
  exact ⟨h.agrees, fun c' l' hl' => h.keeps c' l' (find?_append_of_some hl' c l), hknown.finds⟩

end Completes

/-- A projection that ends has found for each coordinate of the list what the engine finds, and has
kept what had been found before. -/
lemma settled_extend (he : e.Steady) (useCache : Bool) (cs : List Coordinate)
    (hf : found.Agrees e costing) :
    ∃ o, (extend e costing useCache found cs).Settles e o ∧
      ∀ all, o = .ok all → Completes e costing found cs all := by
  induction cs generalizing found with
  | nil =>
    refine ⟨.ok found, .done, fun all h => ?_⟩
    cases h
    exact ⟨hf, fun _ _ h => h, nofun⟩
  | cons c cs ih =>
    unfold extend
    split
    · next hc =>
      -- found before, so that the engine is not asked again
      rw [has_eq_isSome] at hc
      obtain ⟨l, hl⟩ := Option.isSome_iff_exists.1 hc
      obtain ⟨o, ho, hall⟩ := ih hf
      exact ⟨o, ho, fun all h => (hall all h).known hl⟩
    · next hc =>
      rw [has_eq_isSome, Bool.not_eq_true, Option.isSome_eq_false_iff,
        Option.isNone_iff_eq_none] at hc
      have hlocate := settles_locate he costing useCache c
      cases hp : e.project c costing with
      | error crash =>
        rw [hp] at hlocate
        exact ⟨_, hlocate.bind_error _, nofun⟩
      | ok location =>
        rw [hp] at hlocate
        cases location with
        | none =>
          obtain ⟨o, ho, hall⟩ := ih hf
          exact ⟨o, hlocate.bind ho, fun all h => (hall all h).vain hp⟩
        | some l =>
          obtain ⟨o, ho, hall⟩ := ih (hf.append hp)
          exact ⟨o, hlocate.bind ho, fun all h => (hall all h).new hc⟩

/-- A batch projection settles, and when it ends, it has found for each coordinate what the engine
finds. -/
lemma settled_ofCoordinates (he : e.Steady) (costing : Costing) (useCache : Bool)
    (cs : List Coordinate) :
    ∃ o, (ofCoordinates e costing useCache cs).Settles e o ∧
      ∀ all, o = .ok all → ∀ c ∈ cs, e.project c costing = .ok (all.find? c) := by
  have hnil : Agrees e costing [] := nofun
  obtain ⟨o, ho, hall⟩ := settled_extend he useCache cs hnil
  exact ⟨o, ho, fun all h => (hall all h).finds⟩

end Wayfinding.Projections
