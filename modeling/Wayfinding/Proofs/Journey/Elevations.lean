import Wayfinding.Proofs.Journey.Parts
import Wayfinding.Proofs.Journey.Plan

/-!
# Heights along a journey

Heights are looked up while a journey is assembled, and nothing else about it heeds them: whatever
the sources answer, and whether there are any, the journey is the same but for its heights, and so
is the reason why there is none. A source is asked once for each section on the streets that is
walked or ridden on a bike, in their order, and what it does not answer is missing there alone.

Main definitions: `Journey.bare`, `Section.profiledShape?`, `Section.Profiled`.
Main lemmas: `JourneyQuery.journey_bare`, `JourneyQuery.run_assembleWith_bare`,
`JourneyQuery.of_run_sectionsWith`, `JourneyQuery.only_heights_differ`.
-/

namespace Wayfinding

variable {st st' : Shared}

/-! ### Without heights -/

namespace Section

variable {s : Section} {ss : List Section} {index : Nat} {clock arrival : UInt64}

/-- Sections are chained forward with and without heights. -/
lemma chainFrom_bare :
    chainFrom index clock (ss.map bare) = (chainFrom index clock ss).map bare := by
  induction ss generalizing index clock with
  | nil => rfl
  | cons s ss ih =>
    rw [chainFrom, List.map_cons, List.map_cons, ← ih]
    rfl

/-- Heights do not change when sections begin. -/
lemma startOf_bare : startOf (ss.map bare) arrival = startOf ss arrival := by
  cases ss with
  | nil => rfl
  | cons s ss => rfl

/-- Sections are chained backward with and without heights. -/
lemma chainBack_bare : chainBack arrival (ss.map bare) = (chainBack arrival ss).map bare := by
  induction ss with
  | nil => rfl
  | cons s ss ih =>
    rw [chainBack, List.map_cons, List.map_cons, chainBack, ih, startOf_bare]
    rfl

end Section

/-- Heights are not added up. -/
lemma Totals.addSection_bare (t : Totals) (s : Section) :
    t.addSection s.bare = t.addSection s := by
  unfold addSection Section.bare
  cases s.street with
  | none => rfl
  | some part => rfl

namespace Journey

variable {j : Journey}

/-- The journey without the heights along it. -/
def bare (j : Journey) : Journey := { j with sections := j.sections.map Section.bare }

/-- Heights do not change how long a journey takes. -/
lemma span_bare (ss : List Section) : span (ss.map Section.bare) = span ss := by
  unfold span
  rw [List.head?_map, List.getLast?_map]
  cases ss.head? with
  | none => rfl
  | some first =>
    cases ss.getLast? with
    | none => rfl
    | some last => rfl

/-- The totals heed no heights. -/
lemma totals_bare (j : Journey) : j.bare.totals = j.totals := by
  have hbyMode :
      Totals.ofSections (j.sections.map Section.bare) = Totals.ofSections j.sections := by
    unfold Totals.ofSections
    rw [List.foldlM_map]
    simp only [Totals.addSection_bare]
  simp only [totals, bare, hbyMode, span_bare]

/-- An announced journey is the journey with some totals. -/
lemma of_announced {j' : Journey} (h : j.announced.mapError Halt.crashed = .ok j') :
    ∃ t, j' = j.withTotals t := by
  unfold announced at h
  cases ht : j.totals with
  | ok t =>
    rw [ht] at h
    exact ⟨t, (Except.ok.inj h).symm⟩
  | error crash =>
    rw [ht] at h
    cases h

/-- A journey is announced with the same totals, or crashes, whatever its heights are. -/
lemma announced_bare (j : Journey) : j.bare.announced = j.announced.map bare := by
  unfold announced
  rw [totals_bare]
  cases j.totals with
  | ok t => rfl
  | error crash => rfl

end Journey

namespace JourneyQuery

variable {q : JourneyQuery} {path : Path} {costs : BikeShareCosts} {costing : Costing}
  {sources : Nat → Option ElevationSource} {legs : List Leg} {ss : List Section}

/-- A journey departs in the same way, whatever its heights are. -/
lemma departing_bare : q.departing path (ss.map Section.bare) = (q.departing path ss).bare := by
  simp only [departing, Journey.bare, Section.chain, Section.chainFrom_bare, List.length_map]

/-- The journey heeds no heights. -/
lemma journey_bare : q.journey path (ss.map Section.bare) = (q.journey path ss).bare := by
  unfold journey
  dsimp only
  rw [departing_bare]
  split
  · rfl
  · simp only [Journey.arrivingAt, Journey.bare, Section.chainBack_bare]

end JourneyQuery

/-! ### Looking heights up -/

namespace Section

variable {lookup : ElevationSource} {s s' : Section} {part : StreetPart}

/-- The shape of a section on the streets that is walked or ridden on a bike. -/
def profiledShape? (s : Section) : Option (List Coordinate) :=
  s.streetPart?.bind fun part =>
    if part.mode = StreetMode.walking.number ∨ part.mode = StreetMode.bike.number then
      some part.coordinates
    else none

/-- What is asked about a section does not depend on its heights. -/
lemma profiledShape?_bare (s : Section) : s.bare.profiledShape? = s.profiledShape? := by
  unfold profiledShape?
  rw [streetPart?_bare]
  cases s.streetPart? with
  | none => rfl
  | some part => rfl

/-- The section has the heights that the source answers for its shape. Without an answer it has
none, and neither has one that is not walked or ridden. -/
def Profiled (lookup : ElevationSource) (s : Section) : Prop :=
  s.street.map (·.elevations) =
    some (s.profiledShape?.elim [] fun shape => (lookup shape).toOption.getD [])

/-- The source is asked for a section with a profile, and only then. -/
lemma run_withProfile (hpart : s.street = some part) (hnone : part.elevations = [])
    (hshape : s.profiledShape? = if s.hasProfile part then some part.coordinates else none)
    (hrun : (s.withProfile (some lookup)).run st = (.ok s', st')) :
    st' = { st with calls := s'.profiledShape?.toList.map .elevations ++ st.calls } ∧
      s'.Profiled lookup := by
  have hbare := bare_of_withProfile (Procedure.leads_of_run hrun)
  have hsame : s'.profiledShape? = s.profiledShape? := by
    rw [← profiledShape?_bare, hbare, profiledShape?_bare]
  unfold withProfile at hrun
  rw [hpart] at hrun
  dsimp only at hrun
  unfold Profiled
  rw [hsame, hshape]
  by_cases h : s.hasProfile part = true
  · rw [if_pos h] at hrun ⊢
    cases hrun
    exact ⟨rfl, rfl⟩
  · rw [if_neg h] at hrun ⊢
    cases hrun
    rw [hpart, Option.map_some, hnone]
    exact ⟨rfl, rfl⟩

end Section

namespace Leg

variable {path : Path} {costs : BikeShareCosts} {instructions : Bool} {leg : Leg} {s : Section}

/-- A leg becomes a section with a profile if it is walked or ridden on a bike. -/
lemma profiledShape?_of_toSection (h : leg.toSection path costs instructions = .ok s) :
    ∃ part, s.street = some part ∧ part.elevations = [] ∧
      s.profiledShape? = if s.hasProfile part then some part.coordinates else none := by
  cases leg with
  | street first last stations =>
    obtain ⟨start, _, _, _, _, -, -, -, -, -, rfl⟩ := streetSection_eq_ok h
    refine ⟨_, rfl, rfl, ?_⟩
    generalize start.graph = g
    cases g with
    | pedestrian => rfl
    | bicycle => rfl
    | drive => rfl
  | station index visit =>
    obtain ⟨m, -, h⟩ := exists_of_bind_eq_ok h
    obtain ⟨c, -, h⟩ := exists_of_bind_eq_ok h
    cases h
    cases visit with
    | rent => exact ⟨_, rfl, rfl, rfl⟩
    | putBack => exact ⟨_, rfl, rfl, rfl⟩

end Leg

namespace JourneyQuery

variable {q : JourneyQuery} {path : Path} {costs : BikeShareCosts} {costing : Costing}
  {sources : Nat → Option ElevationSource} {lookups : Nat → ElevationSource} {legs : List Leg}
  {ss : List Section} {j : Journey}

/-- The sources are asked for the sections with a profile, in their order. -/
lemma of_run_sectionsWith
    (hrun : (q.sectionsWith path costs (fun k => some (lookups k)) legs).run st = (.ok ss, st')) :
    st' = { st with
      calls := ((ss.filterMap Section.profiledShape?).map Call.elevations).reverse ++ st.calls } ∧
    ∀ (k : Nat) (s : Section), ss[k]? = some s → s.Profiled (lookups k) := by
  induction legs generalizing lookups st ss with
  | nil =>
    cases hrun
    refine ⟨rfl, fun k s hk => ?_⟩
    cases hk
  | cons leg legs ih =>
    cases hbase : leg.toSection path costs q.instructions with
    | error halt =>
      rw [sectionsWith, hbase] at hrun
      cases hrun
    | ok base =>
      obtain ⟨s, next, hs, -⟩ := base.run_withProfile_bare (some (lookups 0)) st
      rw [run_sectionsWith_cons hbase hs] at hrun
      obtain ⟨hss, hst'⟩ := Prod.mk.inj hrun
      obtain ⟨rest, hrest, rfl⟩ := exists_of_map_eq_ok hss
      obtain ⟨part, hpart, hnone, hshape⟩ := Leg.profiledShape?_of_toSection hbase
      obtain ⟨rfl, hprofiled⟩ := Section.run_withProfile hpart hnone hshape hs
      obtain ⟨rfl, hall⟩ := ih (Prod.ext hrest hst')
      -- what this section asks is below what the others ask, as the latest call comes first
      constructor
      · rw [List.filterMap_cons]
        cases s.profiledShape? with
        | none => rfl
        | some shape =>
          rw [List.map_cons, List.reverse_cons, List.append_assoc]
          rfl
      · intro k s' hk
        cases k with
        | zero =>
          cases hk
          exact hprofiled
        | succ k => exact hall k s' hk

/-! ### The journey -/

/-- Sections that have profiles keep them in the journey. -/
lemma profiled_journey
    (h : ∀ (k : Nat) (s : Section), ss[k]? = some s → s.Profiled (lookups k)) :
    ∀ (k : Nat) (s : Section), (q.journey path ss).sections[k]? = some s →
      s.Profiled (lookups k) := by
  have hmap : (q.journey path ss).sections.map (fun s => (s.street, s.profiledShape?)) =
      ss.map fun s => (s.street, s.profiledShape?) :=
    map_journey (fun _ _ _ => rfl) (fun _ _ => rfl)
  intro k s hk
  have hsame := congrArg (·[k]?) hmap
  simp only [List.getElem?_map, hk, Option.map_some] at hsame
  obtain ⟨s', hs', heq⟩ := Option.map_eq_some_iff.1 hsame.symm
  obtain ⟨hstreet, hshape⟩ := Prod.mk.inj heq
  have hprofiled := h k s' hs'
  unfold Section.Profiled at hprofiled ⊢
  rw [← hstreet, ← hshape]
  exact hprofiled

/-- Apart from its heights, the journey is that of the planned sections. -/
lemma run_assembleWith_bare (sources : Nat → Option ElevationSource) (st : Shared) :
    ((q.assembleWith path costing sources).run st).1.map Journey.bare =
      (q.plan path costing).bind fun ss => (q.journey path ss).announced.mapError .crashed := by
  obtain ⟨halt, hplan, hrun⟩ | ⟨ss, hplan, hrun⟩ :=
    q.run_assembleWith path costing sources st
  · rw [hplan, hrun]
    rfl
  · rw [hplan, hrun]
    change _ = Except.mapError _ _
    rw [journey_bare, Journey.announced_bare]
    cases (q.journey path ss).announced with
    | ok j => rfl
    | error crash => rfl

/-- The sources are asked for the sections of the journey with a profile, in their order. -/
lemma of_run_assembleWith
    (hrun : (q.assembleWith path costing fun k => some (lookups k)).run st = (.ok j, st')) :
    st' = { st with
      calls :=
        ((j.sections.filterMap Section.profiledShape?).map Call.elevations).reverse ++ st.calls } ∧
    ∀ (k : Nat) (s : Section), j.sections[k]? = some s → s.Profiled (lookups k) := by
  cases htrip : Trip.ofPath costing.mode path with
  | error r =>
    unfold assembleWith at hrun
    rw [htrip] at hrun
    cases hrun
  | ok trip =>
    rw [run_assembleWith_eq htrip] at hrun
    obtain ⟨hj, hst'⟩ := Prod.mk.inj hrun
    obtain ⟨ss, hss, hj⟩ := exists_of_bind_eq_ok hj
    obtain ⟨t, rfl⟩ := Journey.of_announced hj
    obtain ⟨rfl, hprofiled⟩ := of_run_sectionsWith (Prod.ext hss hst')
    rw [Journey.sections_withTotals, filterMap_journey (fun _ _ _ => rfl) (fun _ _ => rfl)]
    exact ⟨rfl, profiled_journey hprofiled⟩

/-- A journey is assembled with one source for all of its legs, if any. Let each leg have a source
of its own, or none. Whatever these are, assembling fails for the same reason or gives the same
journey but for its heights. If each leg has one, then they are asked in turn for the sections on
the streets that are walked or ridden on a bike, each for the shape of its section, and for nothing
else; and each of these sections has the heights of its own answer, or none for want of one. -/
theorem only_heights_differ (q : JourneyQuery) (path : Path) (costing : Costing) :
    (∀ elevation, q.assemble path costing elevation =
      q.assembleWith path costing fun _ => elevation) ∧
    (∀ sources sources' st st',
      ((q.assembleWith path costing sources).run st).1.map Journey.bare =
        ((q.assembleWith path costing sources').run st').1.map Journey.bare) ∧
    ∀ (lookups : Nat → ElevationSource) (st st' : Shared) (j : Journey),
      (q.assembleWith path costing fun k => some (lookups k)).run st = (.ok j, st') →
        st' = { st with
          calls := ((j.sections.filterMap Section.profiledShape?).map Call.elevations).reverse ++
            st.calls } ∧
        ∀ (k : Nat) (s : Section), j.sections[k]? = some s → s.Profiled (lookups k) := by
  refine ⟨assemble_eq_assembleWith, fun sources sources' st st' => ?_,
    fun lookups st st' j hrun => of_run_assembleWith hrun⟩
  rw [run_assembleWith_bare, run_assembleWith_bare]

/-- A source that fails the third time and else answers the same height. -/
def failingOnce (k : Nat) : ElevationSource := fun _ =>
  if k = 2 then .error .unreachable else .ok [⟨0, .ofNat 35, 0⟩]

/-- The hired bike: both walks have heights, while the lookup for the ride between them fails. -/
theorem only_heights_differ_hire :
    ∃ j st', (assembleWith ⟨1000, true, true⟩ hire hireCosting fun k => some (failingOnce k)).run
        { caches := .ofCapacities fun _ => 1 } = (.ok j, st') ∧
      st'.calls = [.elevations (hire.shape.drop 3), .elevations ((hire.shape.take 4).drop 1),
        .elevations (hire.shape.take 2)] ∧
      j.sections.map (fun s => s.street.map (·.elevations.length)) =
        [some 1, some 0, some 0, some 0, some 1] ∧
      ∀ s, j.sections[2]? = some s → s.Profiled (failingOnce 2) := by
  obtain ⟨result, hresult⟩ : ∃ result, (assembleWith ⟨1000, true, true⟩ hire hireCosting
      fun k => some (failingOnce k)).run { caches := .ofCapacities fun _ => 1 } = result := ⟨_, rfl⟩
  have hsections : result.1.map (fun j => (j.sections.filterMap Section.profiledShape?,
      j.sections.map fun s => s.street.map (·.elevations.length))) =
      .ok ([hire.shape.take 2, (hire.shape.take 4).drop 1, hire.shape.drop 3],
        [some 1, some 0, some 0, some 0, some 1]) := by
    rw [← hresult]
    decide +kernel
  obtain ⟨j, hj, hpair⟩ := exists_of_map_eq_ok hsections
  obtain ⟨hshapes, hheights⟩ := Prod.mk.inj hpair
  have hrun := hresult.trans (Prod.ext hj rfl : result = (.ok j, result.2))
  obtain ⟨hcalls, hprofiled⟩ := (only_heights_differ ⟨1000, true, true⟩ hire hireCosting).2.2
    failingOnce _ _ j hrun
  refine ⟨j, result.2, hrun, ?_, hheights, hprofiled 2⟩
  rw [hcalls, hshapes]
  rfl

end JourneyQuery

end Wayfinding
