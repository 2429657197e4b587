import Wayfinding.Proofs.Matrix.Cells
import Wayfinding.Proofs.Projection.Batch

/-!
# Refused matrix requests

Of several mistakes in a request the first is reported, and nothing is asked or remembered for it.
A request without mistakes is refused when none of its origins is located, and then, when none of
its destinations is; only otherwise is the matrix searched.

Main definitions:
* `MatrixRequest.mistake?`: the first mistake of a request.
* `MatrixQuery.Weighed`: what comes of a request without mistakes.

Main statement: `MatrixRequest.run_answer`.
-/

namespace Wayfinding

open Procedure (Visited)
open Projections (AsksFor)

namespace PlaceContext

/-- Whether a place cannot be read. -/
def isUnreadable (p : PlaceContext) : Bool := (Coordinate.parse? p.place).isNone

end PlaceContext

namespace MatrixRequest

/-- The first mistake of a request: its mode, the first place that cannot be read, of the origins
and then of the destinations, and a negative duration. -/
def mistake? (r : MatrixRequest) : Option Refusal :=
  if (Mode.ofName? r.mode).isNone then some (.unknownMode r.mode)
  else
    match (r.origins ++ r.destinations).find? (·.isUnreadable) with
    | some p => some (.invalidPlace p.place)
    | none => if r.maxDuration < 0 then some (.negativeMaxDuration r.maxDuration.toInt) else none

variable {r : MatrixRequest} {q : MatrixQuery} {routing : RoutingSettings} {reason : Refusal}
  {contexts : List PlaceContext}

/-- The places of a list that can be read. -/
def coordinates (contexts : List PlaceContext) : List Coordinate :=
  contexts.filterMap fun p => Coordinate.parse? p.place

/-- Reading places stops at the first that cannot be read. -/
lemma places_eq (contexts : List PlaceContext) :
    places contexts = (contexts.find? (·.isUnreadable)).elim
      (.ok (coordinates contexts)) fun p => .error (.invalidPlace p.place) := by
  induction contexts with
  | nil => rfl
  | cons p contexts ih =>
    rw [places] at ih
    rw [places, List.mapM_cons]
    cases hp : Coordinate.parse? p.place with
    | none =>
      have hcoordinate : p.coordinate = .error (.invalidPlace p.place) := by
        simp [PlaceContext.coordinate, hp]
      rw [List.find?_cons_of_pos (by simp [PlaceContext.isUnreadable, hp]), hcoordinate]
      rfl
    | some c =>
      have hcoordinate : p.coordinate = .ok c := by simp [PlaceContext.coordinate, hp]
      have hcons : coordinates (p :: contexts) = c :: coordinates contexts := by
        simp [coordinates, hp]
      rw [List.find?_cons_of_neg (by simp [PlaceContext.isUnreadable, hp]), hcoordinate, ih, hcons]
      cases contexts.find? (·.isUnreadable) <;> rfl

/-- A negative duration is refused. -/
lemma radius_of_neg (h : r.maxDuration < 0) (mode : Mode) (coefficient : Binary64)
    (costing : Costing) (routing : RoutingSettings) :
    radius mode r.maxDuration coefficient costing routing =
      .error (.negativeMaxDuration r.maxDuration.toInt) := if_pos h

/-- For any other duration there is a radius. -/
lemma radius_of_not_neg (h : ¬r.maxDuration < 0) (mode : Mode) (coefficient : Binary64)
    (costing : Costing) (routing : RoutingSettings) :
    ∃ x, radius mode r.maxDuration coefficient costing routing = .ok x := ⟨_, if_neg h⟩

/-- Reading a request finds its first mistake, if there is one. -/
lemma query_eq (r : MatrixRequest) (routing : RoutingSettings) :
    (∀ reason, r.mistake? = some reason → r.query routing = .error reason) ∧
      (r.mistake? = none →
        ∃ q, r.query routing = .ok q ∧ Mode.ofName? r.mode = some q.mode) := by
  unfold mistake? query Mode.ofName
  rw [List.find?_append, places_eq, places_eq]
  cases hmode : Mode.ofName? r.mode with
  | none => exact ⟨fun reason h => by cases h; rfl, nofun⟩
  | some mode =>
    cases horigins : r.origins.find? (·.isUnreadable) with
    | some p => exact ⟨fun reason h => by cases h; rfl, nofun⟩
    | none =>
      cases hdestinations : r.destinations.find? (·.isUnreadable) with
      | some p => exact ⟨fun reason h => by cases h; rfl, nofun⟩
      | none =>
        by_cases hneg : r.maxDuration < 0
        · simp only [radius_of_neg hneg, hneg]
          exact ⟨fun reason h => by cases h; rfl, nofun⟩
        · obtain ⟨x, hx⟩ := radius_of_not_neg hneg mode (r.coefficient mode routing)
            (.ofPreferences mode (r.preferences.getD {}) routing) routing
          refine ⟨by simp [hneg], fun _ => ⟨⟨mode, coordinates r.origins,
            coordinates r.destinations, .ofPreferences mode (r.preferences.getD {}) routing, x,
            r.maxDuration.toInt.natAbs⟩, ?_, rfl⟩⟩
          change (radius _ _ _ _ _ >>= _) = _
          rw [hx]
          rfl

end MatrixRequest

/-! ### What is asked of the engine -/

variable {e : Engine} {capacity : Graph → Nat} {routing : RoutingSettings} {q : MatrixQuery}
  {costing : Costing} {cs : List Coordinate} {s : Shared}

/-- The engine has a location for none of the coordinates. -/
def Engine.FindsNone (e : Engine) (costing : Costing) (cs : List Coordinate) : Prop :=
  ∀ c ∈ cs, e.project c costing = .ok none

namespace Projections

/-- Nothing is found if all coordinates are nowhere. -/
lemma isEmpty_grown_iff (hcalm : e.Calm) :
    (grown e costing [] cs).isEmpty = true ↔ e.FindsNone costing cs := by
  rw [List.isEmpty_iff, ← List.map_eq_nil_iff, keys_grown, List.eq_nil_iff_forall_not_mem]
  simp [fresh, has, Engine.FindsNone, hcalm.project]

/-- Sought are coordinates of the list. -/
lemma mem_of_mem_sought {found : Projections} {c : Coordinate}
    (h : c ∈ sought e costing found cs) : c ∈ cs := by
  induction cs generalizing found with
  | nil => cases h
  | cons c' cs ih =>
    unfold sought at h
    split at h
    case isTrue => exact List.mem_cons_of_mem _ (ih h)
    case isFalse =>
      obtain rfl | h := List.mem_cons.1 h
      · exact List.mem_cons_self
      · exact List.mem_cons_of_mem _ (ih h)

/-- The locations that are found are those of the engine, in the order of the list. -/
lemma filterMap_grown (cs : List Coordinate) :
    cs.filterMap (grown e costing [] cs).find? = cs.filterMap (e.location? costing) := by
  refine List.filterMap_congr fun c hc => Option.ext fun l => ?_
  rw [find?_grown_iff, Engine.location?_eq_some]
  exact and_iff_right hc

end Projections

namespace MatrixQuery

/-- What comes of a request without mistakes, when a worker answers it alone. -/
structure Weighed (e : Engine) (q : MatrixQuery) (s : Shared)
    (o : Except Halt (Mode × Response)) (s' : Shared) : Prop where
  noOrigin_iff : o = .error (.refused .noOrigin) ↔ e.FindsNone q.costing q.sources
  /-- Only the origins were asked for. -/
  noOrigin : o = .error (.refused .noOrigin) →
    s'.calls = (q.sources.map (Call.project · q.costing.mode)).reverse ++ s.calls
  noDestination_iff : o = .error (.refused .noDestination) ↔
    ¬e.FindsNone q.costing q.sources ∧ e.FindsNone q.costing q.targets
  /-- Only origins and then all destinations were asked for. -/
  noDestination : o = .error (.refused .noDestination) →
    ∃ made, AsksFor q.costing q.sources made ∧
      s'.calls = (q.targets.map (Call.project · q.costing.mode)).reverse ++ (made ++ s.calls)
  /-- The matrix is searched once, after origins and destinations were asked for. -/
  search : ¬e.FindsNone q.costing q.sources → ¬e.FindsNone q.costing q.targets →
    ∃ made m results, AsksFor q.costing (q.sources ++ q.targets) made ∧
      o = .ok (q.mode, { matrix := some m }) ∧
      e.searchMatrix (q.sources.filterMap (e.location? q.costing))
        (q.targets.filterMap (e.location? q.costing)) q.costing q.radius = .ok results ∧
      s'.calls = .searchMatrix
        ((q.sources.filterMap (e.location? q.costing)).map (·.snapped))
        ((q.targets.filterMap (e.location? q.costing)).map (·.snapped)) q.radius ::
          (made ++ s.calls)

/-- Projecting a list is refused when nothing in it is located; then each of its coordinates has
been asked for, as often as it is listed. -/
lemma run_project (he : e.Steady) (hcalm : e.Calm) (hs : Visited e capacity s)
    (q : MatrixQuery) (cs : List Coordinate) (whenEmpty : Refusal) :
    ∃ s', Visited e capacity s' ∧
      (e.FindsNone q.costing cs →
        (q.project e cs whenEmpty).run s = (.error (.refused whenEmpty), s') ∧
        s'.calls = (cs.map (Call.project · q.costing.mode)).reverse ++ s.calls) ∧
      (¬e.FindsNone q.costing cs →
        (q.project e cs whenEmpty).run s = (.ok (.grown e q.costing [] cs), s') ∧
        ∃ made, AsksFor q.costing cs made ∧ s'.calls = made ++ s.calls) := by
  obtain ⟨s', hrun, hs', hsought⟩ := Projections.run_extend he hcalm hs q.costing
    (decide (1 < cs.length)) [] cs
  have hproject : (q.project e cs whenEmpty).run s =
      (if (Projections.grown e q.costing [] cs).isEmpty then Procedure.refuse whenEmpty
        else .done (.grown e q.costing [] cs)).run s' :=
    Procedure.run_bind_of_ok hrun
  refine ⟨s', hs', fun hnone => ⟨?_, ?_⟩, fun hsome => ⟨?_, ?_⟩⟩
  · rw [hproject, if_pos ((Projections.isEmpty_grown_iff hcalm).2 hnone)]
    rfl
  · have hvain : ∀ c ∈ cs, e.location? q.costing c = none := fun c hc =>
      Except.ok.inj ((hcalm.project q.costing c).symm.trans (hnone c hc))
    rw [Projections.sought_of_vain hvain] at hsought
    exact (hsought.vain hvain).1
  · rw [hproject, if_neg fun h => hsome ((Projections.isEmpty_grown_iff hcalm).1 h)]
    rfl
  · obtain ⟨made, hmade, hall⟩ := hsought.engine
    refine ⟨made, fun call hcall => ?_, hmade⟩
    obtain ⟨c, hc, hcall⟩ := hall call hcall
    exact ⟨c, Projections.mem_of_mem_sought hc, hcall⟩

/-- The mode and the response of a request, once it is read. -/
def answer (q : MatrixQuery) (e : Engine) : Procedure (Mode × Response) := do
  let matrix ← q.matrix e
  inspectCaches
  return (q.mode, { matrix := some matrix })

/-- Of a request that was read, the origins are projected, then the destinations, and then the
matrix is searched; whatever fails first ends it. -/
lemma weighed_answer (he : e.Steady) (hcalm : e.Calm)
    (hsearch : ∀ sources targets costing radius,
      ∃ results, e.searchMatrix sources targets costing radius = .ok results)
    (hs : Visited e capacity s) (q : MatrixQuery) :
    Weighed e q s ((q.answer e).run s).1 ((q.answer e).run s).2 := by
  obtain ⟨s₁, hs₁, hnone, hsome⟩ := run_project he hcalm hs q q.sources .noOrigin
  by_cases hsources : e.FindsNone q.costing q.sources
  · obtain ⟨hrun, hcalls⟩ := hnone hsources
    have hmatrix : (q.matrix e).run s = (.error (.refused .noOrigin), s₁) :=
      Procedure.run_bind_of_error hrun
    have hanswer : (q.answer e).run s = _ := Procedure.run_bind_of_error hmatrix
    rw [hanswer]
    exact {
      noOrigin_iff := iff_of_true rfl hsources
      noOrigin := fun _ => hcalls
      noDestination_iff := iff_of_false nofun fun h => h.1 hsources
      noDestination := nofun
      search := fun h => absurd hsources h }
  obtain ⟨hrun, made, hall, hmade⟩ := hsome hsources
  obtain ⟨s₂, -, hnone, hsome⟩ := run_project he hcalm hs₁ q q.targets .noDestination
  by_cases htargets : e.FindsNone q.costing q.targets
  · obtain ⟨hrun', hcalls⟩ := hnone htargets
    have hmatrix : (q.matrix e).run s = (.error (.refused .noDestination), s₂) :=
      (Procedure.run_bind_of_ok hrun).trans (Procedure.run_bind_of_error hrun')
    have hanswer : (q.answer e).run s = _ := Procedure.run_bind_of_error hmatrix
    rw [hanswer]
    exact {
      noOrigin_iff := iff_of_false nofun hsources
      noOrigin := nofun
      noDestination_iff := iff_of_true rfl ⟨hsources, htargets⟩
      noDestination := fun _ => ⟨made, hall, hmade ▸ hcalls⟩
      search := fun _ h => absurd htargets h }
  · obtain ⟨hrun', made', hall', hmade'⟩ := hsome htargets
    obtain ⟨results, hresults⟩ := hsearch (q.sources.filterMap (e.location? q.costing))
      (q.targets.filterMap (e.location? q.costing)) q.costing q.radius
    have hmatrix : (q.matrix e).run s = _ :=
      (Procedure.run_bind_of_ok hrun).trans (Procedure.run_bind_of_ok hrun')
    rw [Projections.filterMap_grown, Projections.filterMap_grown, search, hresults] at hmatrix
    have hanswer : (q.answer e).run s = _ := Procedure.run_bind_of_ok hmatrix
    rw [hanswer]
    exact {
      noOrigin_iff := iff_of_false nofun hsources
      noOrigin := nofun
      noDestination_iff := iff_of_false nofun fun h => htargets h.2
      noDestination := nofun
      search := fun _ _ => by
        refine ⟨made' ++ made, _, results, hall.append hall', rfl, hresults, ?_⟩
        rw [List.append_assoc, ← hmade, ← hmade']
        rfl }

end MatrixQuery

/-- Let the engine heed only the graph when it projects a coordinate, and never crash. Of several
mistakes in a request the first is reported, in the order mode, origins, destinations, duration, and
this leaves the shared state as it is. A request without mistakes is refused if none of its origins
is located, and then no destination is asked for; if not, then it is refused if none of its
destinations is, and the matrix is not searched; and if not, then the matrix is searched once, for
the locations of its origins and destinations in the order in which they are listed. -/
theorem MatrixRequest.run_answer (he : e.Steady) (hcalm : e.Calm)
    (hsearch : ∀ sources targets costing radius,
      ∃ results, e.searchMatrix sources targets costing radius = .ok results)
    (hs : s.caches.Reachable e capacity) (r : MatrixRequest) (routing : RoutingSettings) :
    (∀ reason, r.mistake? = some reason →
      (r.answer e routing).run s = (.error (.refused reason), s)) ∧
    (r.mistake? = none → ∃ q, r.query routing = .ok q ∧ Mode.ofName? r.mode = some q.mode ∧
      r.origins.map (fun p => Coordinate.parse? p.place) = q.sources.map some ∧
      r.destinations.map (fun p => Coordinate.parse? p.place) = q.targets.map some ∧
      q.Weighed e s ((r.answer e routing).run s).1 ((r.answer e routing).run s).2) := by
  obtain ⟨hmistake, hread⟩ := query_eq r routing
  refine ⟨fun reason h => ?_, fun h => ?_⟩
  · have hquery : (Procedure.ofExcept (r.query routing)).run s = (.error (.refused reason), s) := by
      rw [hmistake reason h]
      rfl
    exact Procedure.run_bind_of_error hquery
  · obtain ⟨q, hq, hmode⟩ := hread h
    have hquery : (Procedure.ofExcept (r.query routing)).run s = (.ok q, s) := by
      rw [hq]
      rfl
    have hanswer : (r.answer e routing).run s = (q.answer e).run s :=
      Procedure.run_bind_of_ok hquery
    obtain ⟨horigins, hdestinations, -⟩ := of_query hq
    exact ⟨q, hq, hmode, places_eq_ok horigins, places_eq_ok hdestinations,
      hanswer ▸ q.weighed_answer he hcalm hsearch hs⟩

open Projections (afterOne afterOne_reachable roadworks roadworks_calm roadworks_steady)
open Survey (milestone)

/-- From some places to others. -/
def MatrixRequest.tour (mode : String) (origins destinations : List String) : MatrixRequest where
  origins := origins.map fun place => { place }
  destinations := destinations.map fun place => { place }
  mode := mode
  maxDuration := 300

/-- An unknown mode, which is reported rather than the places that cannot be read, a destination at
which nothing is found, and an origin that is listed twice. -/
theorem MatrixRequest.run_answer_roadworks :
    roadworks.Steady ∧ roadworks.Calm ∧ afterOne.caches.Reachable roadworks (fun _ => 1) ∧
      ((tour "plane" ["here"] ["there"]).answer roadworks .default).run afterOne =
        (.error (.refused (.unknownMode "plane")), afterOne) ∧
      (((tour "walking" ["2;0"] ["1;0"]).answer roadworks .default).run afterOne).1 =
        .error (.refused .noDestination) ∧
      ∃ made m radius,
        (((tour "walking" ["2;0", "1;0", "3;0", "2;0"] ["2;0"]).answer roadworks .default).run
          afterOne).1 = .ok (.walking, { matrix := some m }) ∧
        (((tour "walking" ["2;0", "1;0", "3;0", "2;0"] ["2;0"]).answer roadworks .default).run
          afterOne).2.calls =
            .searchMatrix ([2, 3, 2].map milestone) [milestone 2] radius ::
              (made ++ afterOne.calls) := by
  have hrun := run_answer roadworks_steady roadworks_calm (fun _ _ _ _ => ⟨[], rfl⟩)
    afterOne_reachable
  have hread {contexts : List PlaceContext} {cs cs' : List Coordinate}
      (h : contexts.map (fun p => Coordinate.parse? p.place) = cs.map some)
      (h' : contexts.map (fun p => Coordinate.parse? p.place) = cs'.map some) : cs = cs' :=
    List.map_injective_iff.2 (fun _ _ => Option.some.inj) (h.symm.trans h')
  have hsome {costing : Costing} {cs : List Coordinate} (h : milestone 2 ∈ cs) :
      ¬roadworks.FindsNone costing cs := by
    intro hnone
    have hfound : roadworks.project (milestone 2) costing ≠ .ok none := by
      change roadworks.project (milestone 2) default ≠ .ok none
      decide +kernel
    exact hfound (hnone _ h)
  refine ⟨roadworks_steady, roadworks_calm, afterOne_reachable, ?_, ?_, ?_⟩
  · exact (hrun (tour "plane" ["here"] ["there"]) .default).1 _ (by decide +kernel)
  · obtain ⟨q, -, -, horigins, hdestinations, hq⟩ :=
      (hrun (tour "walking" ["2;0"] ["1;0"]) .default).2 (by decide +kernel)
    obtain hsources : q.sources = [milestone 2] := hread horigins (by decide +kernel)
    obtain htargets : q.targets = [milestone 1] := hread hdestinations (by decide +kernel)
    have hnone : roadworks.project (milestone 1) q.costing = .ok none := by
      change roadworks.project (milestone 1) default = .ok none
      decide +kernel
    exact hq.noDestination_iff.2 ⟨hsome (by simp [hsources]),
      htargets ▸ List.forall_mem_singleton.2 hnone⟩
  · obtain ⟨q, -, hmode, horigins, hdestinations, hq⟩ :=
      (hrun (tour "walking" ["2;0", "1;0", "3;0", "2;0"] ["2;0"]) .default).2 (by decide +kernel)
    obtain hsources : q.sources = [2, 1, 3, 2].map milestone := hread horigins (by decide +kernel)
    obtain htargets : q.targets = [milestone 2] := hread hdestinations (by decide +kernel)
    obtain ⟨made, m, -, -, houtcome, -, hcalls⟩ :=
      hq.search (hsome (by simp [hsources])) (hsome (by simp [htargets]))
    obtain hwalking : q.mode = .walking := Option.some.inj (hmode.symm.trans (by decide +kernel))
    refine ⟨made, m, q.radius, hwalking ▸ houtcome, hcalls.trans ?_⟩
    have hfound : (q.sources.filterMap (roadworks.location? q.costing)).map (·.snapped) =
        [2, 3, 2].map milestone := by
      rw [hsources]
      change (([2, 1, 3, 2].map milestone).filterMap (roadworks.location? default)).map _ = _
      decide +kernel
    have hfound' : (q.targets.filterMap (roadworks.location? q.costing)).map (·.snapped) =
        [milestone 2] := by
      rw [htargets]
      change ([milestone 2].filterMap (roadworks.location? default)).map _ = _
      decide +kernel
    rw [hfound, hfound']

end Wayfinding
