import Wayfinding.Proofs.Journey.Acceptance

/-!
# The shapes of the sections of a journey

A leg of a path takes the points of the shape from the one where its first maneuver starts to the
one where the next leg starts, or to the last one. A journey is refused when one of these is not in
the shape, or when the leg goes backward by more than one point. A leg that goes backward by one
point is accepted, and its section has no points at all; every other section on the streets goes
from the coordinate of its origin to that of its destination.

Main definitions: `Section.Grounded`, `Leg.Fits`, `Leg.Advances`.
Main lemmas: `Leg.grounded_iff_advances`, `JourneyQuery.exists_plan_iff`,
`JourneyQuery.grounded_iff`.
-/

namespace Wayfinding

/-- The coordinate of a place: that of its address, or of its point of interest. -/
def PlaceObject.coordinate? (place : PlaceObject) : Option Coordinate :=
  (place.address.bind (·.coord)).or (place.poi.bind (·.coord))

/-- The place of an endpoint is at its coordinate. -/
lemma Endpoint.coordinate?_place (e : Endpoint) : e.place.coordinate? = some e.coordinate := by
  cases e <;> rfl

namespace Section

/-- The points along a section. -/
def coordinates (s : Section) : List Coordinate := (s.street.map (·.coordinates)).getD []

/-- The points along a section begin at its origin and end at its destination. -/
def Grounded (s : Section) : Prop :=
  ∃ first last, s.coordinates.head? = some first ∧ s.coordinates.getLast? = some last ∧
    s.origin.bind (·.coordinate?) = some first ∧ s.destination.bind (·.coordinate?) = some last

/-- A plan has the coordinates of its section. -/
lemma coordinates_plan (s : Section) : s.plan.coordinates = s.coordinates := by
  change ((s.street.map _).map _).getD [] = _
  rw [Option.map_map]
  rfl

/-- A plan is grounded if its section is. -/
lemma grounded_plan (s : Section) : s.plan.Grounded ↔ s.Grounded := by
  rw [Grounded, coordinates_plan]
  rfl

end Section

namespace Path

variable {path : Path} {bound last : Nat} {target : Coordinate} {arrival : Maneuver}

/-- Where in the shape a leg ends that takes the maneuvers up to `last`, this point included. -/
def endOf (path : Path) (last : Nat) : Nat :=
  if path.maneuvers.length ≤ last then path.shape.length - 1 else path.startOf last

/-- A leg ends behind the point at which the path goes on. -/
lemma bound_of_finish (h : path.finish last = .ok (bound, target, arrival)) :
    bound = path.endOf last + 1 ∧ path.shape[path.endOf last]? = some target := by
  unfold endOf
  split
  · next hle =>
    obtain ⟨rfl, htarget, -⟩ := finish_of_le hle h
    obtain ⟨hlt, -⟩ := List.getElem?_eq_some_iff.1 htarget
    exact ⟨by omega, htarget⟩
  · next hlt =>
    obtain ⟨rfl, htarget, harrival⟩ := finish_of_lt (Nat.not_le.1 hlt) h
    rw [startOf_eq harrival]
    exact ⟨rfl, htarget⟩

/-- A leg has an end if that point is in the shape. -/
lemma exists_finish (hne : 0 < path.maneuvers.length) (h : path.endOf last < path.shape.length) :
    ∃ target arrival, path.finish last = .ok (path.endOf last + 1, target, arrival) := by
  unfold endOf at h ⊢
  split at h
  · next hle =>
    have hlast := point_eq_ok.2 (List.getElem?_eq_getElem h)
    have hm := maneuver_eq_ok.2 (List.getElem?_eq_getElem (Nat.sub_one_lt_of_lt hne))
    have hlength : path.shape.length - 1 + 1 = path.shape.length := by omega
    refine ⟨path.shape[path.shape.length - 1], path.maneuvers[path.maneuvers.length - 1], ?_⟩
    rw [finish, if_pos hle, hlast, hm, if_pos hle, hlength]
    rfl
  · next hlt =>
    have hm := List.getElem?_eq_getElem (Nat.not_le.1 hlt)
    rw [startOf_eq hm] at h
    refine ⟨path.shape[path.maneuvers[last].start], path.maneuvers[last], ?_⟩
    rw [finish, if_neg hlt, maneuver_eq_ok.2 hm, if_neg hlt, startOf_eq hm]
    change Except.bind (path.point _) _ = _
    rw [point_eq_ok.2 (List.getElem?_eq_getElem h)]
    rfl

end Path

namespace Leg

variable {path : Path} {costs : BikeShareCosts} {instructions stations : Bool} {first last : Nat}
  {leg : Leg} {legs : List Leg} {s : Section} {ss : List Section}

/-- The index in the shape at which a leg begins. -/
def firstPoint (path : Path) : Leg → Nat
  | street first _ _ => path.startOf first
  | station index _ => path.startOf index

/-- The index in the shape at which a leg ends. -/
def lastPoint (path : Path) : Leg → Nat
  | street _ last _ => path.endOf last
  | station index _ => path.startOf index

/-- The leg does not leave the shape, and it goes backward by at most one point. -/
def Fits (path : Path) (leg : Leg) : Prop :=
  leg.firstPoint path < path.shape.length ∧ leg.lastPoint path < path.shape.length ∧
    leg.firstPoint path ≤ leg.lastPoint path + 1

instance : Decidable (leg.Fits path) := inferInstanceAs (Decidable (_ ∧ _))

/-- The leg does not go backward. -/
def Advances (path : Path) (leg : Leg) : Prop := leg.firstPoint path ≤ leg.lastPoint path

instance : Decidable (leg.Advances path) := inferInstanceAs (Decidable (_ ≤ _))

/-- A leg whose points are in the shape becomes a section. -/
lemma Fits.toSection_ne_error {halt : Halt} (hf : leg.Fits path)
    (hw : leg.Within path.maneuvers.length) :
    leg.toSection path costs instructions ≠ .error halt := by
  obtain ⟨hfirst, hlast, hle⟩ := hf
  intro h
  cases leg with
  | street first last stations =>
    obtain ⟨hr, -⟩ := hw
    have hm := List.getElem?_eq_getElem hr
    simp only [firstPoint, lastPoint, Path.startOf_eq hm] at hfirst hlast hle
    obtain hstart | ⟨start, hstart, h⟩ := error_of_bind_eq_error h
    · exact Path.maneuver_ne_error hr hstart
    cases hm.symm.trans (Path.maneuver_eq_ok.1 hstart)
    obtain ⟨target, arrival, hends⟩ := Path.exists_finish (Nat.zero_lt_of_lt hr) hlast
    obtain hfinish | ⟨ends, hfinish, h⟩ := error_of_bind_eq_error h
    · cases hends.symm.trans hfinish
    cases hends.symm.trans hfinish
    obtain hpoints | ⟨coordinates, -, h⟩ := error_of_bind_eq_error h
    · cases (Path.points_eq_ok.2 ⟨⟨hle, hlast⟩, rfl⟩).symm.trans hpoints
    obtain hpoint | ⟨source, -, h⟩ := error_of_bind_eq_error h
    · cases (Path.point_eq_ok.2 (List.getElem?_eq_getElem hfirst)).symm.trans hpoint
    · cases h
  | station index visit =>
    have hm := List.getElem?_eq_getElem hw
    rw [firstPoint, Path.startOf_eq hm] at hfirst
    obtain hstart | ⟨start, hstart, h⟩ := error_of_bind_eq_error h
    · exact Path.maneuver_ne_error hw hstart
    cases hm.symm.trans (Path.maneuver_eq_ok.1 hstart)
    obtain hpoint | ⟨c, -, h⟩ := error_of_bind_eq_error h
    · cases (Path.point_eq_ok.2 (List.getElem?_eq_getElem hfirst)).symm.trans hpoint
    · cases h

/-- What becomes of a leg is in the shape. -/
lemma fits_of_toSection (h : leg.toSection path costs instructions = .ok s) : leg.Fits path := by
  cases leg with
  | street first last stations =>
    obtain ⟨start, bound, target, arrival, source, hstart, hfinish, hle, hbound, hsource, -⟩ :=
      streetSection_eq_ok h
    obtain ⟨rfl, -⟩ := Path.bound_of_finish hfinish
    rw [← Path.startOf_eq hstart] at hle hsource
    exact ⟨(List.getElem?_eq_some_iff.1 hsource).1, hbound, hle⟩
  | station index visit =>
    obtain ⟨m, hm, h⟩ := exists_of_bind_eq_ok h
    obtain ⟨c, hc, h⟩ := exists_of_bind_eq_ok h
    rw [Path.point_eq_ok, ← Path.startOf_eq (Path.maneuver_eq_ok.1 hm)] at hc
    obtain ⟨hlt, -⟩ := List.getElem?_eq_some_iff.1 hc
    exact ⟨hlt, hlt, Nat.le_succ _⟩

/-- Each leg of a plan is in the shape. -/
lemma forall_fits
    (h : List.Forall₂ (fun leg s => leg.toSection path costs instructions = .ok s) legs ss) :
    ∀ leg ∈ legs, leg.Fits path := by
  induction h with
  | nil => exact List.forall_mem_nil _
  | cons hs _ ih => exact List.forall_mem_cons.2 ⟨fits_of_toSection hs, ih⟩

/-- An endpoint is at the coordinate that it is made for. -/
lemma coordinate_endpoint (stations : Bool) (g : Graph) (c : Coordinate) (m : Maneuver) :
    (endpoint stations g c m).coordinate = c := by
  cases stations with
  | false => rfl
  | true => cases g <;> rfl

/-- A leg that goes backward has no points. -/
lemma coordinates_eq_nil (h : streetSection path costs instructions first last stations = .ok s)
    (hback : ¬ (street first last stations).Advances path) : s.coordinates = [] := by
  obtain ⟨start, bound, target, arrival, source, hstart, hfinish, -, -, -, rfl⟩ :=
    streetSection_eq_ok h
  obtain ⟨rfl, -⟩ := Path.bound_of_finish hfinish
  rw [Advances, firstPoint, lastPoint, Path.startOf_eq hstart] at hback
  change (path.shape.take (path.endOf last + 1)).drop start.start = []
  rw [List.drop_eq_nil_iff, List.length_take]
  omega

/-- The points of a leg on the streets are those from its origin to its destination, unless it goes
backward. -/
lemma grounded_iff_advances
    (h : streetSection path costs instructions first last stations = .ok s) :
    s.Grounded ↔ (street first last stations).Advances path := by
  constructor
  · rintro ⟨c, _, hhead, -⟩
    by_contra hback
    rw [coordinates_eq_nil h hback] at hhead
    cases hhead
  · intro hle
    obtain ⟨start, bound, target, arrival, source, hstart, hfinish, -, hbound, hsource, rfl⟩ :=
      streetSection_eq_ok h
    obtain ⟨rfl, htarget⟩ := Path.bound_of_finish hfinish
    rw [Advances, firstPoint, lastPoint, Path.startOf_eq hstart] at hle
    refine ⟨source, target, ?_, ?_, ?_, ?_⟩
    · exact (head?_stretch (Nat.lt_succ_of_le hle)).trans hsource
    · exact (getLast?_stretch hle hbound).trans htarget
    · exact (Endpoint.coordinate?_place _).trans (congrArg some (coordinate_endpoint _ _ _ _))
    · exact (Endpoint.coordinate?_place _).trans (congrArg some (coordinate_endpoint _ _ _ _))

/-- The sections on streets are grounded if no leg goes backward. -/
lemma forall_grounded_iff
    (h : List.Forall₂ (fun leg s => leg.toSection path costs instructions = .ok s.plan) legs ss) :
    (∀ s ∈ ss, s.kind = SectionKind.street.number → s.Grounded) ↔
      ∀ leg ∈ legs, leg.Advances path := by
  induction h with
  | nil => exact iff_of_true (List.forall_mem_nil _) (List.forall_mem_nil _)
  | @cons leg s legs ss hs _ ih =>
    rw [List.forall_mem_cons, List.forall_mem_cons, ih]
    refine and_congr_left fun _ => ?_
    cases leg with
    | street first last stations =>
      obtain ⟨_, _, _, _, _, -, -, -, -, -, hplan⟩ := streetSection_eq_ok hs
      have hkind : s.kind = SectionKind.street.number := congrArg Section.kind hplan
      rw [← grounded_iff_advances hs, Section.grounded_plan]
      exact ⟨fun h => h hkind, fun h _ => h⟩
    | station index visit =>
      obtain ⟨hkind, -, -⟩ := stationSection_eq_ok hs
      exact iff_of_true (fun h => absurd h hkind) (Nat.le_refl _)

end Leg

namespace JourneyQuery

variable {q : JourneyQuery} {path : Path} {costing : Costing} {elevation : Option ElevationSource}
  {trip : Trip}

/-- A journey along a path can be planned if and only if its shape has the points of each leg. -/
lemma exists_plan_iff (hne : path.maneuvers ≠ [])
    (htrip : Trip.ofPath costing.mode path = .ok trip) :
    (∃ ss, q.plan path costing = .ok ss) ↔
      ∀ leg ∈ trip.legs path.maneuvers.length, leg.Fits path := by
  constructor
  · rintro ⟨ss, hplan⟩
    obtain ⟨trip', htrip', hss⟩ := forall₂_of_plan hplan
    cases htrip.symm.trans htrip'
    exact Leg.forall_fits hss
  · intro hfits
    cases hplan : q.plan path costing with
    | ok ss => exact ⟨ss, rfl⟩
    | error halt =>
      obtain ⟨leg, hleg, hhalt⟩ := exists_of_plan_eq_error htrip hplan
      exact absurd hhalt
        ((hfits leg hleg).toSection_ne_error (Trip.within_legs hne htrip leg hleg))

/-- A path becomes a journey, or crashes because the totals of its journey overflow, if and only if
its shape has the points of each leg. Otherwise the shape is reported. The sections of the journey
on the streets go from the coordinates of their origins to those of their destinations if and only
if no leg goes backward. -/
theorem grounded_iff (hne : path.maneuvers ≠ [])
    (htrip : Trip.ofPath costing.mode path = .ok trip) (shared : Shared) :
    (((∃ j, ((q.assemble path costing elevation).run shared).1 = .ok j) ∨
          ∃ ss crash, q.plan path costing = .ok ss ∧ q.Overflows ss crash ∧
            ((q.assemble path costing elevation).run shared).1 = .error (.crashed crash)) ↔
        ∀ leg ∈ trip.legs path.maneuvers.length, leg.Fits path) ∧
      ((∃ index length, ((q.assemble path costing elevation).run shared).1 =
          .error (.refused (.shapeIndex index length))) ↔
        ∃ leg ∈ trip.legs path.maneuvers.length, ¬ leg.Fits path) ∧
      ∀ j, ((q.assemble path costing elevation).run shared).1 = .ok j →
        ((∀ s ∈ j.sections, s.kind = SectionKind.street.number → s.Grounded) ↔
          ∀ leg ∈ trip.legs path.maneuvers.length, leg.Advances path) := by
  have hplans := exists_plan_iff (q := q) hne htrip
  obtain ⟨halt, hplan, hrun⟩ | ⟨ss, hplan, hends⟩ :=
    q.run_assemble_cases path costing elevation shared
  · obtain ⟨leg, hleg, hhalt⟩ := exists_of_plan_eq_error htrip hplan
    have hfits : ¬ leg.Fits path := fun hf =>
      hf.toSection_ne_error (Trip.within_legs hne htrip leg hleg) hhalt
    obtain ⟨index, length, rfl⟩ := outside_of_plan_eq_error hne htrip hplan
    rw [hrun]
    refine ⟨iff_of_false ?_ fun h => hfits (h leg hleg), ?_, nofun⟩
    · rintro (⟨j, hj⟩ | ⟨ss, crash, -, -, hcrash⟩)
      · cases hj
      · cases hcrash
    · exact iff_of_true ⟨index, length, rfl⟩ ⟨leg, hleg, hfits⟩
  · have hfits := hplans.1 ⟨ss, hplan⟩
    refine ⟨iff_of_true ?_ hfits, iff_of_false ?_ fun ⟨leg, hleg, h⟩ => h (hfits leg hleg), ?_⟩
    · obtain ⟨j, -, hrun⟩ | ⟨crash, hover, hrun⟩ := hends
      · exact .inl ⟨j, hrun⟩
      · exact .inr ⟨ss, crash, hplan, hover, hrun⟩
    · rintro ⟨index, length, hrun'⟩
      obtain ⟨j, -, hrun⟩ | ⟨crash, hover, hrun⟩ := hends
      · cases hrun.symm.trans hrun'
      · cases hrun.symm.trans hrun'
    · intro j hj
      obtain ⟨trip', htrip', hsections⟩ :=
        planned_of_assemble (Procedure.leads_of_run (Prod.ext hj rfl))
      cases htrip.symm.trans htrip'
      exact Leg.forall_grounded_iff hsections

/-- No leg of the way with the hired bike goes backward. -/
theorem grounded_hire :
    ∃ j, ((assemble ⟨1000, true, true⟩ hire hireCosting none).run
        { caches := .ofCapacities fun _ => 1 }).1 = .ok j ∧
      ∀ s ∈ j.sections, s.kind = SectionKind.street.number → s.Grounded := by
  have hrun : ((assemble ⟨1000, true, true⟩ hire hireCosting none).run
      { caches := .ofCapacities fun _ => 1 }).1.map (fun j => j.sections.length) = .ok 5 := by
    decide +kernel
  obtain ⟨j, hj, -⟩ := exists_of_map_eq_ok hrun
  have hne : hire.maneuvers ≠ [] := List.cons_ne_nil _ _
  have htrip : Trip.ofPath hireCosting.mode hire = .ok (.bikeShare 1 2) := by decide
  obtain ⟨-, -, hgrounded⟩ := grounded_iff hne htrip { caches := .ofCapacities fun _ => 1 }
  exact ⟨j, hj, (hgrounded j hj).2 (by decide)⟩

/-- The way with the hired bike, with a walk that starts one point behind the station. -/
def hireBack : Path :=
  { hire with
    maneuvers := hire.maneuvers.set 0 { start := 2, time := 60, instruction := some "Walk." } }

/-- The walk to the station goes backward by one point: its section has no points, although it has
an origin and a destination. -/
theorem not_grounded_hireBack :
    ∃ j, ((assemble ⟨1000, true, true⟩ hireBack hireCosting none).run
        { caches := .ofCapacities fun _ => 1 }).1 = .ok j ∧
      ∃ s ∈ j.sections, s.kind = SectionKind.street.number ∧ s.coordinates = [] ∧
        ¬ s.Grounded := by
  have hrun : ((assemble ⟨1000, true, true⟩ hireBack hireCosting none).run
      { caches := .ofCapacities fun _ => 1 }).1.map
        (fun j => j.sections.head?.map fun s => (s.kind, s.coordinates)) =
      .ok (some (SectionKind.street.number, [])) := by decide +kernel
  obtain ⟨j, hj, hfirst⟩ := exists_of_map_eq_ok hrun
  obtain ⟨s, hs, hwalk⟩ := Option.map_eq_some_iff.1 hfirst
  obtain ⟨hkind, hnone⟩ := Prod.mk.inj hwalk
  refine ⟨j, hj, s, List.mem_of_head? hs, hkind, hnone, fun ⟨_, _, hhead, _⟩ => ?_⟩
  rw [hnone] at hhead
  cases hhead

end JourneyQuery

end Wayfinding
