import Mathlib.Data.List.Forall2
import Wayfinding.Matrix.Answer
import Wayfinding.Proofs.Projection.Located

/-!
# The cells of a matrix

The engine is given the located sources and targets and answers with one result for each pair of
them. However many coordinates are missing or repeated, and whatever the caches hold, the matrix has
one cell for each pair of an origin and a destination, and it is the cell of that pair.

Main definitions: `MatrixCell.Describes`, `Matrix.Covers`.
Main statement: `MatrixRequest.covers_of_answer`.
-/

namespace Wayfinding

/-- What the cell of an origin and a destination says, when `project` tells where they are located
and `f` how far apart two locations are. -/
inductive MatrixCell.Describes (project : Coordinate → Except Crash (Option Location))
    (f : Location → Location → TimeDistance) (maxDuration : Nat) (origin destination : Coordinate)
    (cell : MatrixCell) : Prop where
  | unlocated :
    project origin = .ok none ∨ project destination = .ok none →
    cell.duration = -1 →
    cell.status = Reachability.unreached.number →
    Describes project f maxDuration origin destination cell
  | located {s t} :
    project origin = .ok (some s) →
    project destination = .ok (some t) →
    cell.duration.toInt = min ((f s t).time : Int) Int32.maxValue.toInt →
    cell.status = (if (f s t).time < unreachableTime ∧ (f s t).time ≤ maxDuration
      then Reachability.reached else .unreached).number →
    Describes project f maxDuration origin destination cell

namespace Matrix

variable {maxDuration : Nat} {ss ts : List Coordinate}
  {R : Coordinate → Coordinate → MatrixCell → Prop}

/-- The matrix has one cell for each pair, in the order of the lists: the destinations of one origin
in each row or, when several origins share one destination, all origins in one row. -/
def Covers (m : Matrix) (R : Coordinate → Coordinate → MatrixCell → Prop)
    (origins destinations : List Coordinate) : Prop :=
  if 1 < origins.length ∧ destinations.length = 1 then
    ∃ row, m.rows = [row] ∧
      ∀ destination ∈ destinations, List.Forall₂ (R · destination) origins row.cells
  else
    List.Forall₂ (fun origin row => List.Forall₂ (R origin) destinations row.cells) origins m.rows

/-- The cell of two places that may be located. -/
def cell (maxDuration : Nat) (f : Location → Location → TimeDistance) :
    Option Location → Option Location → MatrixCell
  | some s, some t => .ofResult maxDuration (f s t)
  | _, _ => .failed

/-! ### Taking the results one by one -/

/-- A source that is not located leaves all results to the others. -/
lemma fillRow_unlocated (ts : List Bool) (results : List TimeDistance) :
    fillRow maxDuration false ts results = (ts.map fun _ => .failed, results) := by
  induction ts with
  | nil => rfl
  | cons t ts ih => simp only [fillRow, Bool.false_and, ih, List.map_cons]

/-- The row of a located source takes the results for its located targets and leaves the rest. -/
lemma fillRow_located (f : Location → TimeDistance) (b : Coordinate → Option Location)
    (ts : List Coordinate) (rest : List TimeDistance) :
    fillRow maxDuration true (ts.map fun t => (b t).isSome) ((ts.filterMap b).map f ++ rest) =
      (ts.map fun t => match b t with
        | some l => .ofResult maxDuration (f l)
        | none => .failed, rest) := by
  induction ts with
  | nil => rfl
  | cons t ts ih =>
    cases hb : b t with
    | none => simp only [List.map_cons, List.filterMap_cons, hb, Option.isSome_none, fillRow,
        Bool.and_false, ih]
    | some l => simp only [List.map_cons, List.filterMap_cons, hb, Option.isSome_some, fillRow,
        Bool.and_self, List.cons_append, ih]

/-- Every row takes its own results, when there is one for each pair of a located source and a
located target. -/
lemma fill_eq (maxDuration : Nat) (f : Location → Location → TimeDistance)
    (a b : Coordinate → Option Location) (ss ts : List Coordinate) :
    fill maxDuration (ts.map fun t => (b t).isSome) (ss.map fun s => (a s).isSome)
        ((ss.filterMap a).flatMap fun s => (ts.filterMap b).map (f s)) =
      ss.map fun s => ts.map fun t => cell maxDuration f (a s) (b t) := by
  induction ss with
  | nil => rfl
  | cons s ss ih =>
    cases ha : a s with
    | none =>
      simp only [List.map_cons, List.filterMap_cons, ha, Option.isSome_none, fill,
        fillRow_unlocated, ih, cell, List.map_map, Function.comp_def]
    | some l =>
      simp only [List.map_cons, List.filterMap_cons, ha, Option.isSome_some, fill,
        List.flatMap_cons, fillRow_located, ih]
      congr 1
      apply List.map_congr_left
      intro t _
      cases b t <;> rfl

/-! ### Rows -/

/-- A grid of cells that fit their pairs, laid out in rows, covers the pairs. -/
lemma covers_ofGrid (g : Coordinate → Coordinate → MatrixCell)
    (hg : ∀ s ∈ ss, ∀ t ∈ ts, R s t (g s t)) :
    (ofGrid ss.length ts.length (ss.map fun s => ts.map (g s))).Covers R ss ts := by
  unfold Covers ofGrid
  split
  · next h =>
    obtain ⟨t, rfl⟩ := List.length_eq_one_iff.1 h.2
    refine ⟨_, rfl, fun destination hd => ?_⟩
    obtain rfl : destination = t := List.mem_singleton.1 hd
    have hflat : (ss.map fun s => [destination].map (g s)).flatten =
        ss.map fun s => g s destination := by
      simp only [List.map_cons, List.map_nil, ← List.flatMap_def]
      exact List.flatMap_pure_eq_map _ _
    rw [hflat, List.forall₂_map_right_iff, List.forall₂_same]
    exact fun s hs => hg s hs destination hd
  · rw [List.map_map, List.forall₂_map_right_iff, List.forall₂_same]
    intro s hs
    simp only [Function.comp_apply, List.forall₂_map_right_iff, List.forall₂_same]
    exact fun t ht => hg s hs t ht

/-- The cell of two coordinates describes them. -/
lemma describes_cell {project : Coordinate → Except Crash (Option Location)}
    {f : Location → Location → TimeDistance} {origin destination : Coordinate}
    {s t : Option Location} (hs : project origin = .ok s) (ht : project destination = .ok t) :
    (cell maxDuration f s t).Describes project f maxDuration origin destination := by
  cases s with
  | none => exact .unlocated (.inl hs) rfl rfl
  | some s =>
    cases t with
    | none => exact .unlocated (.inr ht) rfl rfl
    | some t =>
      refine .located hs ht ?_ ?_
      · simp only [cell, MatrixCell.ofResult, MatrixCell.longestDuration, Int32.toInt_maxValue]
        rw [Int32.toInt_ofNat_of_lt (by omega)]
        omega
      · simp only [cell, MatrixCell.ofResult, MatrixCell.reaches, decide_eq_true_eq]

end Matrix

open Procedure (Leads Settled Visited)

variable {e : Engine} {capacity : Graph → Nat} {routing : RoutingSettings}

/-- The coordinate of a place is read from its text. -/
lemma PlaceContext.parse?_of_coordinate {p : PlaceContext} {c : Coordinate}
    (h : p.coordinate = .ok c) : Coordinate.parse? p.place = some c := by
  unfold coordinate at h
  split at h
  · next hc =>
    cases h
    exact hc
  · cases h

namespace MatrixRequest

variable {r : MatrixRequest}

/-- The coordinates of places are read from their texts, in their order. -/
lemma places_eq_ok {contexts : List PlaceContext} {cs : List Coordinate}
    (h : places contexts = .ok cs) :
    contexts.map (fun p => Coordinate.parse? p.place) = cs.map some := by
  induction contexts generalizing cs with
  | nil =>
    cases h
    rfl
  | cons p contexts ih =>
    rw [places, List.mapM_cons] at h
    obtain ⟨c, hc, h⟩ := exists_of_bind_eq_ok h
    obtain ⟨cs', hcs, h⟩ := exists_of_bind_eq_ok h
    cases h
    rw [List.map_cons, List.map_cons, ih hcs, PlaceContext.parse?_of_coordinate hc]

/-- What is known about a request that can be read. -/
lemma of_query {q : MatrixQuery} (h : r.query routing = .ok q) :
    places r.origins = .ok q.sources ∧ places r.destinations = .ok q.targets ∧
      r.maxDuration.toInt = q.maxDuration := by
  obtain ⟨mode, hmode, h⟩ := exists_of_bind_eq_ok h
  obtain ⟨sources, hs, h⟩ := exists_of_bind_eq_ok h
  obtain ⟨targets, ht, h⟩ := exists_of_bind_eq_ok h
  obtain ⟨distance, hradius, h⟩ := exists_of_bind_eq_ok h
  cases h
  refine ⟨hs, ht, ?_⟩
  -- a negative duration has no radius
  unfold radius at hradius
  split at hradius
  · cases hradius
  · next hneg =>
    rw [Int32.lt_iff_toInt_lt] at hneg
    exact (Int.natAbs_of_nonneg (Int.not_lt.1 hneg)).symm

end MatrixRequest

namespace MatrixQuery

variable {q : MatrixQuery} {cs : List Coordinate} {whenEmpty : Refusal} {found : Projections}

/-- Looking for places is settled by a steady engine. -/
lemma settled_project (he : e.Steady) : (q.project e cs whenEmpty).Settled e := by
  obtain ⟨o, ho, -⟩ := Projections.settled_ofCoordinates he q.costing (decide (1 < cs.length)) cs
  refine .bind ⟨o, ho⟩ fun found _ => ?_
  split
  · exact .refuse whenEmpty
  · exact .done found

/-- Computing a matrix is settled by a steady engine. -/
lemma settled_matrix (he : e.Steady) : (q.matrix e).Settled e :=
  .bind (settled_project he) fun _ _ =>
    .bind (settled_project he) fun _ _ =>
      .bind (Procedure.settled_consult _ _) fun _ _ => .done _

/-- Whatever was projected, each coordinate has the location that the engine gives it. -/
lemma find?_of_project (he : e.Steady)
    (h : (q.project e cs whenEmpty).Leads (Visited e capacity) (.done found)) :
    ∀ c ∈ cs, e.project c q.costing = .ok (found.find? c) := by
  obtain ⟨all, hall, h⟩ := h.of_bind_done
  obtain ⟨o, ho, hfind⟩ :=
    Projections.settled_ofCoordinates he q.costing (decide (1 < cs.length)) cs
  split at h
  · cases h.of_halt
  · cases h.of_done
    exact hfind found (ho.eq_ok hall)

end MatrixQuery

namespace MatrixRequest

variable {r : MatrixRequest} {mode : Mode} {response : Response}
  {f : Costing → Binary64 → Location → Location → TimeDistance}

/-- Looking at the caches changes nothing. -/
lemma settled_inspectCaches : inspectCaches.Settled e := by
  refine ⟨.ok (), .inspect fun stats => ?_⟩
  exact .measure (.measure (.measure .done))

/-- A request for a matrix is settled by a steady engine. -/
lemma settled_answer (he : e.Steady) : (r.answer e routing).Settled e :=
  .bind (Procedure.settled_ofExcept _) fun _ _ =>
    .bind (MatrixQuery.settled_matrix he) fun _ _ =>
      .bind settled_inspectCaches fun _ _ => .done _

/-- Let the engine heed only the graph when it projects a coordinate, and answer a search with one
result for each pair, those of the first source first. Whatever earlier requests have left in the
caches, and whatever other workers do meanwhile, a matrix that is answered has one cell for each
pair of an origin and a destination, which describes this pair. -/
theorem covers_of_answer (he : e.Steady)
    (hf : ∀ sources targets costing radius, e.searchMatrix sources targets costing radius =
      .ok (sources.flatMap fun s => targets.map (f costing radius s)))
    (h : (r.answer e routing).Leads (Visited e capacity) (.done (mode, response))) :
    ∃ (q : MatrixQuery) (m : Matrix), r.query routing = .ok q ∧
      r.origins.map (fun p => Coordinate.parse? p.place) = q.sources.map some ∧
      r.destinations.map (fun p => Coordinate.parse? p.place) = q.targets.map some ∧
      r.maxDuration.toInt = q.maxDuration ∧
      (mode, response) = (q.mode, { matrix := some m }) ∧
      m.Covers (MatrixCell.Describes (e.project · q.costing) (f q.costing q.radius) q.maxDuration)
        q.sources q.targets := by
  obtain ⟨q, hq, h⟩ := h.of_bind_done
  obtain ⟨m, hm, h⟩ := h.of_bind_done
  obtain ⟨-, -, h⟩ := h.of_bind_done
  cases h.of_done
  obtain ⟨sources, hs, hm⟩ := hm.of_bind_done
  obtain ⟨targets, ht, hm⟩ := hm.of_bind_done
  obtain ⟨results, hresults, hm⟩ := hm.of_bind_done
  cases hm.of_done
  have hs := MatrixQuery.find?_of_project he hs
  have ht := MatrixQuery.find?_of_project he ht
  have hresults := hresults.of_consult
  rw [hf] at hresults
  cases hresults
  obtain ⟨horigins, hdestinations, hmax⟩ := of_query hq.of_ofExcept
  refine ⟨q, _, hq.of_ofExcept, places_eq_ok horigins, places_eq_ok hdestinations, hmax, rfl, ?_⟩
  have hfill := Matrix.fill_eq q.maxDuration (f q.costing q.radius) sources.find?
    targets.find? q.sources q.targets
  simp only [← Projections.has_eq_isSome] at hfill
  rw [Matrix.assemble, List.length_map, List.length_map, hfill]
  exact Matrix.covers_ofGrid _ fun s hmem t hmem' => Matrix.describes_cell (hs s hmem) (ht t hmem')

/-- Ten degrees of land on which all different places are 600 meters apart. -/
def hamlet : StraightLine where
  globe := ⟨fun c c' => if c = c' then 0 else .ofNat 600, fun _ _ => 0⟩
  coverage := some ⟨.ofNat 0, .ofNat 0, .ofNat 10, .ofNat 90⟩
  routing := .default

/-- From a place that is named twice, and one beyond the hamlet, to two places. -/
def errand : MatrixRequest where
  origins := [{ place := "2;48" }, { place := "20;48" }, { place := "2;48" }]
  destinations := [{ place := "coord:3:48" }, { place := "2;48" }]
  mode := "walking"
  maxDuration := 300

/-- The answer for the errand: too far, reached, and not on the network. -/
def errandMatrix : Matrix :=
  ⟨[⟨[⟨2147483647, 2⟩, ⟨0, 1⟩]⟩, ⟨[⟨-1, 2⟩, ⟨-1, 2⟩]⟩, ⟨[⟨2147483647, 2⟩, ⟨0, 1⟩]⟩]⟩

/-- The errand has one place that is nowhere, whose cells are filled in as failed. -/
theorem covers_errandMatrix :
    (errand.answer hamlet.engine .default).Leads (Visited hamlet.engine fun _ => 1)
        (.done (.walking, { matrix := some errandMatrix })) ∧
      ∃ q, errand.query .default = .ok q ∧
        errandMatrix.Covers
          (MatrixCell.Describes (hamlet.engine.project · q.costing)
            (hamlet.cell q.costing q.radius) q.maxDuration)
          q.sources q.targets := by
  have hsteady := Engine.steady_straightLine hamlet
  have hleads : (errand.answer hamlet.engine .default).Leads (Visited hamlet.engine fun _ => 1)
      (.done (.walking, { matrix := some errandMatrix })) := by
    have hrun : ((errand.answer hamlet.engine .default).run
        { caches := .ofCapacities fun _ => 1 }).1 =
          .ok (.walking, { matrix := some errandMatrix }) := by decide +kernel
    obtain ⟨o, ho⟩ : (errand.answer hamlet.engine .default).Settled hamlet.engine :=
      settled_answer hsteady
    have hv : Visited hamlet.engine (fun _ => 1) { caches := .ofCapacities fun _ => 1 } := .empty
    obtain rfl : o = _ := (ho.run hv).1.symm.trans hrun
    exact ho.leads_run hv
  obtain ⟨q, m, hq, -, -, -, heq, hm⟩ := covers_of_answer hsteady (fun _ _ _ _ => rfl) hleads
  obtain rfl : errandMatrix = m :=
    Option.some.inj (congrArg (fun answer => answer.2.matrix) heq)
  exact ⟨hleads, q, hq, hm⟩

end MatrixRequest

end Wayfinding
