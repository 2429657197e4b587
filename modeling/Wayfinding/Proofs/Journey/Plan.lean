import Wayfinding.Proofs.Journey.Sections

/-!
# The plan of a journey

What the legs of a trip become depends on the path alone, and not on the heights that are looked up
or on the direction in which the sections are put on the time line. So the sections of a journey can
be planned before it is assembled, and it is assembled unless there is no plan or its totals do not
fit.

A source may answer differently each time it is asked; the journey is therefore assembled with a
source for each of its legs.

Main definitions: `JourneyQuery.plan`, `JourneyQuery.assembleWith`.
Main lemmas: `JourneyQuery.run_sectionsWith_bare`, `JourneyQuery.run_assembleWith`.
-/

namespace Wayfinding

variable {st : Shared}

/-- What a list is mapped to, one element after the other, is that of each element. -/
lemma forall₂_of_mapM_eq_ok {ε α β : Type} {f : α → Except ε β} {as : List α} {bs : List β}
    (h : as.mapM f = .ok bs) : List.Forall₂ (fun a b => f a = .ok b) as bs := by
  induction as generalizing bs with
  | nil =>
    cases h
    exact .nil
  | cons a as ih =>
    rw [List.mapM_cons] at h
    obtain ⟨b, hb, h⟩ := exists_of_bind_eq_ok h
    obtain ⟨bs', hbs, h⟩ := exists_of_bind_eq_ok h
    cases h
    exact .cons hb (ih hbs)

/-- A list is not mapped to its end only if an element fails. -/
lemma exists_of_mapM_eq_error {ε α β : Type} {f : α → Except ε β} {as : List α} {r : ε}
    (h : as.mapM f = .error r) : ∃ a ∈ as, f a = .error r := by
  induction as with
  | nil => cases h
  | cons a as ih =>
    rw [List.mapM_cons] at h
    cases ha : f a with
    | error r' =>
      rw [ha] at h
      cases h
      exact ⟨a, List.mem_cons_self, ha⟩
    | ok b =>
      rw [ha] at h
      cases has : as.mapM f with
      | error r' =>
        rw [has] at h
        cases h
        obtain ⟨a', hmem, ha'⟩ := ih has
        exact ⟨a', List.mem_cons_of_mem a hmem, ha'⟩
      | ok bs =>
        rw [has] at h
        cases h

/-- A lookup never fails a section, and changes nothing but its heights. -/
lemma Section.run_withProfile_bare (source : Option ElevationSource) (s : Section) (st : Shared) :
    ∃ s' st', (s.withProfile source).run st = (.ok s', st') ∧ s'.bare = s.bare := by
  have hok : ∃ s' st', (s.withProfile source).run st = (.ok s', st') := by
    unfold withProfile
    split
    · split
      · exact ⟨_, _, rfl⟩
      · exact ⟨_, _, rfl⟩
    · exact ⟨_, _, rfl⟩
  obtain ⟨s', st', hrun⟩ := hok
  exact ⟨s', st', hrun, bare_of_withProfile (Procedure.leads_of_run hrun)⟩

namespace JourneyQuery

/-- The sections of the journey without their place in time and without heights. -/
def plan (q : JourneyQuery) (path : Path) (costing : Costing) : Except Halt (List Section) := do
  let trip ← (Trip.ofPath costing.mode path).mapError .refused
  (trip.legs path.maneuvers.length).mapM fun leg =>
    leg.toSection path costing.bikeShare q.instructions

/-- The sections of some legs, each of which has a source of its own. -/
def sectionsWith (q : JourneyQuery) (path : Path) (costs : BikeShareCosts) :
    (Nat → Option ElevationSource) → List Leg → Procedure (List Section)
  | _, [] => pure []
  | sources, leg :: legs => do
    let s ← match leg.toSection path costs q.instructions with
      | .ok s => s.withProfile (sources 0)
      | .error halt => .halt halt
    return s :: (← sectionsWith q path costs (fun k => sources (k + 1)) legs)

/-- The journey along a path, of which each leg has a source of its own. -/
def assembleWith (q : JourneyQuery) (path : Path) (costing : Costing)
    (sources : Nat → Option ElevationSource) : Procedure Journey := do
  let trip ← .ofExcept (Trip.ofPath costing.mode path)
  let sections ←
    q.sectionsWith path costing.bikeShare sources (trip.legs path.maneuvers.length)
  .risk (q.journey path sections).announced

variable {q : JourneyQuery} {path : Path} {costs : BikeShareCosts} {costing : Costing}
  {sources : Nat → Option ElevationSource} {trip : Trip} {legs : List Leg} {ss : List Section}

/-! ### Plans -/

/-- A plan has a section for each leg of the trip. -/
lemma forall₂_of_plan (h : q.plan path costing = .ok ss) :
    ∃ trip, Trip.ofPath costing.mode path = .ok trip ∧
      List.Forall₂ (fun leg s => leg.toSection path costing.bikeShare q.instructions = .ok s)
        (trip.legs path.maneuvers.length) ss := by
  unfold plan at h
  cases htrip : Trip.ofPath costing.mode path with
  | error reason =>
    rw [htrip] at h
    cases h
  | ok trip =>
    rw [htrip] at h
    exact ⟨trip, rfl, forall₂_of_mapM_eq_ok h⟩

/-- A plan has the sections of the legs of its trip. -/
lemma plan_eq (htrip : Trip.ofPath costing.mode path = .ok trip) :
    q.plan path costing = (trip.legs path.maneuvers.length).mapM fun leg =>
      leg.toSection path costing.bikeShare q.instructions := by
  rw [plan, htrip]
  rfl

/-- A plan heeds only the mode and what stops cost. -/
lemma plan_congr {costing' : Costing} (hmode : costing.mode = costing'.mode)
    (hcosts : costing.bikeShare = costing'.bikeShare) :
    q.plan path costing = q.plan path costing' := by
  rw [plan, plan, hmode, hcosts]

/-- Along a trip there is no plan only if a leg does not become a section. -/
lemma exists_of_plan_eq_error {halt : Halt} (htrip : Trip.ofPath costing.mode path = .ok trip)
    (h : q.plan path costing = .error halt) :
    ∃ leg ∈ trip.legs path.maneuvers.length,
      leg.toSection path costing.bikeShare q.instructions = .error halt :=
  exists_of_mapM_eq_error ((plan_eq htrip).symm.trans h)

/-! ### Calls -/

/-- A lookup does nothing but call its source. -/
lemma onlyCalls_withProfile (elevation : Option ElevationSource) (s : Section) :
    (s.withProfile elevation).OnlyCalls := by
  unfold Section.withProfile
  split
  · split
    · exact .call _ (.done _)
    · exact .done _
  · exact .done _

/-- The sections of some legs are made with calls alone. -/
lemma onlyCalls_sections (elevation : Option ElevationSource) (legs : List Leg) :
    (q.sections path costs elevation legs).OnlyCalls := by
  induction legs with
  | nil => exact .done _
  | cons leg legs ih =>
    unfold sections
    cases leg.toSection path costs q.instructions with
    | ok s =>
      exact (onlyCalls_withProfile elevation s).bind fun _ => ih.bind fun _ => .done _
    | error halt => exact .halt halt

/-- A journey is made with calls alone. -/
lemma onlyCalls_assemble (elevation : Option ElevationSource) :
    (q.assemble path costing elevation).OnlyCalls := by
  unfold assemble
  cases Trip.ofPath costing.mode path with
  | error reason => exact .halt _
  | ok trip => exact (onlyCalls_sections elevation _).bind fun _ => Procedure.onlyCalls_risk _

/-! ### Sources for each leg -/

/-- One source for all legs is a source for each. -/
lemma sections_eq_sectionsWith (elevation : Option ElevationSource) (legs : List Leg) :
    q.sections path costs elevation legs = q.sectionsWith path costs (fun _ => elevation) legs := by
  induction legs with
  | nil => rfl
  | cons leg legs ih =>
    let after (s : Section) (rest : Procedure (List Section)) : Procedure (List Section) :=
      (s.withProfile elevation).bind fun s => rest.bind fun ss => .done (s :: ss)
    unfold sections sectionsWith
    cases leg.toSection path costs q.instructions with
    | ok s => exact congrArg (after s) ih
    | error halt => rfl

/-- A journey is assembled with one source for all of its legs. -/
lemma assemble_eq_assembleWith (elevation : Option ElevationSource) :
    q.assemble path costing elevation = q.assembleWith path costing fun _ => elevation := by
  unfold assemble assembleWith
  simp only [sections_eq_sectionsWith]

/-- A leg that becomes a section takes its lookup before those of the legs after it. -/
lemma run_sectionsWith_cons {leg : Leg} {base s : Section} {next : Shared}
    (hbase : leg.toSection path costs q.instructions = .ok base)
    (hrun : (base.withProfile (sources 0)).run st = (.ok s, next)) :
    (q.sectionsWith path costs sources (leg :: legs)).run st =
      (((q.sectionsWith path costs (fun k => sources (k + 1)) legs).run next).1.map (s :: ·),
        ((q.sectionsWith path costs (fun k => sources (k + 1)) legs).run next).2) := by
  rw [sectionsWith, hbase]
  exact (Procedure.run_bind_of_ok hrun).trans (Procedure.run_bind_done _ _ _)

/-- Apart from their heights, the sections are those of the legs; no lookup fails them. -/
lemma run_sectionsWith_bare (q : JourneyQuery) (path : Path) (costs : BikeShareCosts)
    (legs : List Leg) (sources : Nat → Option ElevationSource) (st : Shared) :
    ((q.sectionsWith path costs sources legs).run st).1.map (List.map Section.bare) =
      legs.mapM fun leg => leg.toSection path costs q.instructions := by
  induction legs generalizing sources st with
  | nil => rfl
  | cons leg legs ih =>
    rw [List.mapM_cons]
    cases hbase : leg.toSection path costs q.instructions with
    | error halt =>
      rw [sectionsWith, hbase]
      rfl
    | ok base =>
      -- the lookup changes the shared state for the other legs, which do not depend on it
      obtain ⟨s, next, hrun, hbare⟩ := base.run_withProfile_bare (sources 0) st
      rw [run_sectionsWith_cons hbase hrun, ← ih (fun k => sources (k + 1)) next]
      rw [Leg.bare_of_toSection hbase] at hbare
      cases ((q.sectionsWith path costs (fun k => sources (k + 1)) legs).run next).1 with
      | error halt => rfl
      | ok ss =>
        change Except.ok (s.bare :: ss.map Section.bare) = _
        rw [hbare]
        rfl

/-! ### Assembling what is planned -/

/-- Assembling does nothing after the sections are there. -/
lemma run_assembleWith_eq (htrip : Trip.ofPath costing.mode path = .ok trip)
    (sources : Nat → Option ElevationSource) (st : Shared) :
    (q.assembleWith path costing sources).run st =
      (((q.sectionsWith path costing.bikeShare sources
          (trip.legs path.maneuvers.length)).run st).1.bind
          fun ss => (q.journey path ss).announced.mapError .crashed,
        ((q.sectionsWith path costing.bikeShare sources
          (trip.legs path.maneuvers.length)).run st).2) := by
  rw [← Procedure.run_bind_risk]
  unfold assembleWith
  rw [htrip]
  rfl

/-- Assembling fails as the plan does, or ends with the journey of the planned sections, unless its
totals do not fit. -/
lemma run_assembleWith (q : JourneyQuery) (path : Path) (costing : Costing)
    (sources : Nat → Option ElevationSource) (st : Shared) :
    (∃ halt, q.plan path costing = .error halt ∧
      ((q.assembleWith path costing sources).run st).1 = .error halt) ∨
    ∃ ss, q.plan path costing = .ok (ss.map Section.bare) ∧
      ((q.assembleWith path costing sources).run st).1 =
        (q.journey path ss).announced.mapError .crashed := by
  cases htrip : Trip.ofPath costing.mode path with
  | error reason =>
    refine .inl ⟨.refused reason, ?_, ?_⟩
    · rw [plan, htrip]
      rfl
    · unfold assembleWith
      rw [htrip]
      rfl
  | ok trip =>
    rw [run_assembleWith_eq htrip, plan_eq htrip, ← run_sectionsWith_bare _ _ _ _ sources st]
    cases ((q.sectionsWith path costing.bikeShare sources _).run st).1 with
    | error halt => exact .inl ⟨halt, rfl, rfl⟩
    | ok ss => exact .inr ⟨ss, rfl, rfl⟩

/-- Assembling with one source for all legs fails as the plan does, or ends with the journey of the
planned sections, unless its totals overflow. -/
lemma run_assemble (q : JourneyQuery) (path : Path) (costing : Costing)
    (elevation : Option ElevationSource) (st : Shared) :
    (∃ halt, q.plan path costing = .error halt ∧
      ((q.assemble path costing elevation).run st).1 = .error halt) ∨
    ∃ ss, q.plan path costing = .ok (ss.map Section.bare) ∧
      ((q.assemble path costing elevation).run st).1 =
        (q.journey path ss).announced.mapError .crashed := by
  rw [assemble_eq_assembleWith]
  exact run_assembleWith _ _ _ _ st

end JourneyQuery

end Wayfinding
