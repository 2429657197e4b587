import Wayfinding.Proofs.Journey.Plan
import Wayfinding.Proofs.Journey.Totals

/-!
# Totals that overflow

What a section takes and goes is cut to what a message can carry, and so is the total duration. The
totals by mode are not: they are added up with as many bits, and assembling a journey crashes if and
only if what is added up for some graph does not fit. This may happen on a bike-share trip, which
has up to three sections on the same graph, and on no other. Sums that fit can still be followed by
a crash, when the journey passes the middle of the time line.

Main definitions: `Totals.Exact`, `JourneyQuery.Overflows`.
Main lemmas: `JourneyQuery.totals_eq_error_iff`, `JourneyQuery.run_assemble_cases`,
`JourneyQuery.exact_iff_fits`.
-/

namespace Wayfinding

open Procedure (Leads)

variable {g : Graph} {x : Quantity}

namespace Section

variable {s : Section} {ss : List Section}

/-- What is added up is at most what as many sections can take or go. -/
lemma sum_le (ss : List Section) : sum x ss ≤ ss.length * Int32.maxValue.toInt := by
  induction ss with
  | nil => exact Int.le_refl 0
  | cons s ss ih =>
    have hmax : (s.amount x).toInt ≤ Int32.maxValue.toInt := (s.amount x).toInt_le
    rw [sum_cons, List.length_cons]
    rw [Int32.toInt_maxValue] at *
    omega

/-- What is added up for a graph is at most what as many sections can take or go. -/
lemma sumOn_le (ss : List Section) : sumOn x g ss ≤ ss.length * Int32.maxValue.toInt := by
  have hsum : sumOn x g ss ≤ (ss.filter (MovesOn g)).length * Int32.maxValue.toInt := sum_le _
  have hfewer : (ss.filter (MovesOn g)).length ≤ ss.length := List.length_filter_le _ _
  rw [Int32.toInt_maxValue] at *
  omega

/-- Names, instants and heights are not added up. -/
lemma sumOn_map_plan (ss : List Section) : sumOn x g (ss.map plan) = sumOn x g ss := by
  induction ss with
  | nil => rfl
  | cons s ss ih =>
    rw [List.map_cons, sumOn_cons, sumOn_cons, ih]
    simp only [movesOn_plan]
    rfl

/-- A plan does not depend on heights. -/
lemma plan_bare (s : Section) : s.bare.plan = s.plan := by
  unfold plan bare
  rw [Option.map_map]
  rfl

/-- Heights do not change what is added up for a graph. -/
lemma sumOn_map_bare : sumOn x g (ss.map bare) = sumOn x g ss := by
  rw [← sumOn_map_plan, List.map_map, ← sumOn_map_plan ss]
  exact congrArg _ (List.map_congr_left fun s _ => s.plan_bare)

/-- Heights do not change how long the sections take. -/
lemma total_map_bare : total (ss.map bare) = total ss := by
  unfold total
  rw [List.map_map]
  rfl

end Section

namespace Totals

variable {t : Totals} {ss : List Section}

/-- The totals by mode are those of some sections, cut to what a message can carry. -/
def Exact (t : Totals) (ss : List Section) : Prop :=
  ∀ x g, 0 ≤ (t.amount x g).toInt ∧
    (t.amount x g).toInt = min Int32.maxValue.toInt (Section.sumOn x g ss)

/-- Sums that fit are not cut. -/
lemma Counts.toExact (ht : t.Counts ss) (h : ∀ s ∈ ss, s.Summand) : t.Exact ss := by
  intro x g
  have hnonneg : 0 ≤ Section.sumOn x g ss := Section.sumOn_nonneg h
  have hmax := ht.fits x g
  rw [ht.amount]
  omega

/-- Heights do not change whether the sums fit. -/
lemma fits_map_bare : Fits (ss.map Section.bare) ↔ Fits ss := by
  unfold Fits
  simp only [Section.sumOn_map_bare]

/-- A single section always fits. -/
lemma fits_of_length_le (h : ss.length ≤ 1) : Fits ss := by
  intro x g
  have hle : Section.sumOn x g ss ≤ ss.length * Int32.maxValue.toInt := Section.sumOn_le ss
  rw [Int32.toInt_maxValue] at *
  omega

end Totals

/-- There are few legs: a bike-share trip is walked, ridden and walked, with two stops. -/
lemma Trip.length_legs_le (trip : Trip) (count : Nat) : (trip.legs count).length ≤ 5 := by
  cases trip with
  | whole => exact Nat.le_of_ble_eq_true rfl
  | bikeShare r p =>
    simp only [legs]
    split <;> split <;> exact Nat.le_of_ble_eq_true rfl

namespace JourneyQuery

variable {q : JourneyQuery} {path : Path} {costing : Costing} {elevation : Option ElevationSource}
  {ss : List Section} {crash : Crash}

/-! ### Totals of planned sections -/

/-- How the totals of some sections overflow: what is added up for a graph does not fit, or this
fits and the journey passes the middle of the time line. -/
inductive Overflows (q : JourneyQuery) (ss : List Section) : Crash → Prop where
  | sum : ¬ Totals.Fits ss → Overflows q ss .sumOverflow
  | difference :
    Totals.Fits ss →
    q.PassesMiddle (Section.total ss) →
    Overflows q ss .differenceOverflow

/-- Totals overflow in one way. -/
lemma Overflows.unique {crash' : Crash} (h : q.Overflows ss crash) (h' : q.Overflows ss crash') :
    crash = crash' := by
  cases h with
  | sum hover =>
    cases h' with
    | sum _ => rfl
    | difference hfits _ => exact absurd hfits hover
  | difference hfits _ =>
    cases h' with
    | sum hover => exact absurd hfits hover
    | difference _ _ => rfl

/-- A sum overflows when what is added up for a graph does not fit. -/
lemma overflows_sum_iff : q.Overflows ss .sumOverflow ↔ ¬ Totals.Fits ss := by
  refine ⟨fun h => ?_, .sum⟩
  generalize hcrash : Crash.sumOverflow = crash at h
  cases h with
  | sum hover => exact hover
  | difference _ _ => exact absurd hcrash (by decide)

/-- Heights do not make totals overflow. -/
lemma overflows_map_bare : q.Overflows (ss.map Section.bare) crash ↔ q.Overflows ss crash := by
  constructor
  · rintro (hover | ⟨hfits, hpasses⟩)
    · exact .sum (mt Totals.fits_map_bare.2 hover)
    · rw [Section.total_map_bare] at hpasses
      exact .difference (Totals.fits_map_bare.1 hfits) hpasses
  · rintro (hover | ⟨hfits, hpasses⟩)
    · exact .sum (mt Totals.fits_map_bare.1 hover)
    · refine .difference (Totals.fits_map_bare.2 hfits) ?_
      rwa [Section.total_map_bare]

/-- What is known about the sections of a plan, also when their heights have been looked up. -/
lemma of_plan (h : q.plan path costing = .ok (ss.map Section.bare)) :
    ss ≠ [] ∧ (∀ s ∈ ss, s.Summand) ∧ Section.total ss < Instant.middle := by
  obtain ⟨trip, -, hss⟩ := forall₂_of_plan h
  rw [List.forall₂_map_right_iff] at hss
  refine ⟨?_, Leg.summands (hss.imp fun _ _ => Leg.toSection_plan), ?_⟩
  · rintro rfl
    exact trip.legs_ne_nil _ (List.forall₂_nil_right_iff.1 hss)
  · have hle : Section.sum .seconds ss ≤ ss.length * Int32.maxValue.toInt := Section.sum_le ss
    have hfew := trip.length_legs_le path.maneuvers.length
    rw [hss.length_eq] at hfew
    rw [Int32.toInt_maxValue] at hle
    rw [Section.total_eq_sum]
    unfold Instant.middle
    omega

/-- What is added up for a journey is what was planned. -/
lemma sumOn_journey (q : JourneyQuery) (path : Path) :
    Section.sumOn x g (q.journey path ss).sections = Section.sumOn x g ss := by
  have hplan : (q.journey path ss).sections.map Section.plan = ss.map Section.plan :=
    map_journey (fun _ _ _ => rfl) (fun _ _ => rfl)
  rw [← Section.sumOn_map_plan, hplan, Section.sumOn_map_plan]

/-- The sections of a journey can be added up if they could when they were planned. -/
lemma summands_journey (q : JourneyQuery) (path : Path) (h : ∀ s ∈ ss, s.Summand) :
    ∀ s ∈ (q.journey path ss).sections, s.Summand := by
  have hplan : (q.journey path ss).sections.map Section.plan = ss.map Section.plan :=
    map_journey (fun _ _ _ => rfl) (fun _ _ => rfl)
  intro s hs
  have hmem : s.plan ∈ (q.journey path ss).sections.map Section.plan := List.mem_map_of_mem hs
  rw [hplan] at hmem
  obtain ⟨s', hs', heq⟩ := List.mem_map.1 hmem
  exact Section.summand_plan.1 (heq ▸ Section.summand_plan.2 (h s' hs'))

/-- The totals of planned sections crash exactly when they overflow. -/
lemma totals_eq_error_iff (h : q.plan path costing = .ok (ss.map Section.bare)) :
    (q.journey path ss).totals = .error crash ↔ q.Overflows ss crash := by
  obtain ⟨hne, hsummands, hfew⟩ := of_plan h
  have hfits : Totals.Fits (q.journey path ss).sections ↔ Totals.Fits ss := by
    unfold Totals.Fits
    simp only [sumOn_journey]
  have hspan := q.span_journey path hne (fun s hs => (hsummands s hs).nonneg .seconds) hfew
  unfold Journey.totals
  obtain ⟨t, ht, hcounts⟩ | ⟨hover, hcrash⟩ :=
    Totals.ofSections_cases (summands_journey q path hsummands)
  · rw [ht, hspan]
    have hfits' := hfits.1 hcounts.fits
    constructor
    · intro herror
      split at herror
      · next hpasses =>
        cases herror
        exact .difference hfits' hpasses
      · cases herror
    · rintro (hover | ⟨-, hpasses⟩)
      · exact absurd hfits' hover
      · rw [if_pos hpasses]
        rfl
  · rw [hcrash]
    constructor
    · intro herror
      cases herror
      exact .sum (mt hfits.2 hover)
    · rintro (- | ⟨hfits', -⟩)
      · rfl
      · exact absurd (hfits.2 hfits') hover

/-! ### Journeys -/

/-- Assembling ends as the plan does when there is none. Otherwise it ends with a journey, or in a
crash because the totals overflow. -/
lemma run_assemble_cases (q : JourneyQuery) (path : Path) (costing : Costing)
    (elevation : Option ElevationSource) (st : Shared) :
    (∃ halt, q.plan path costing = .error halt ∧
      ((q.assemble path costing elevation).run st).1 = .error halt) ∨
    ∃ ss, q.plan path costing = .ok ss ∧
      ((∃ j, (∀ crash, ¬ q.Overflows ss crash) ∧
          ((q.assemble path costing elevation).run st).1 = .ok j) ∨
        ∃ crash, q.Overflows ss crash ∧
          ((q.assemble path costing elevation).run st).1 = .error (.crashed crash)) := by
  obtain hfails | ⟨ss, hplan, hrun⟩ := q.run_assemble path costing elevation st
  · exact .inl hfails
  · refine .inr ⟨ss.map Section.bare, hplan, ?_⟩
    rw [hrun]
    simp only [overflows_map_bare, ← totals_eq_error_iff hplan]
    unfold Journey.announced
    cases (q.journey path ss).totals with
    | ok t =>
      refine .inl ⟨_, fun crash hcrash => ?_, rfl⟩
      cases hcrash
    | error crash => exact .inr ⟨crash, rfl, rfl⟩

/-- The journey of a path for which there is a plan crashes exactly when its totals overflow. -/
lemma run_assemble_eq_crashed_iff (hplan : q.plan path costing = .ok ss) (st : Shared) :
    ((q.assemble path costing elevation).run st).1 = .error (.crashed crash) ↔
      q.Overflows ss crash := by
  obtain ⟨halt, hfails, -⟩ | ⟨ss', hplan', hends⟩ :=
    q.run_assemble_cases path costing elevation st
  · cases hplan.symm.trans hfails
  · cases hplan.symm.trans hplan'
    obtain ⟨j, hfits, hrun⟩ | ⟨crash', hover, hrun⟩ := hends
    · refine iff_of_false (fun h => ?_) (hfits crash)
      cases hrun.symm.trans h
    · refine ⟨fun h => ?_, fun h => ?_⟩
      · cases hrun.symm.trans h
        exact hover
      · rwa [h.unique hover]

/-- Assembling a journey crashes at a sum if and only if what is added up for some graph does not
fit. Otherwise the totals by mode of the journey are those of its sections, cut to what a message
can carry, and nothing is counted for other modes. All sums fit along a path that is travelled in
one leg. -/
theorem exact_iff_fits (hplan : q.plan path costing = .ok ss) (elevation : Option ElevationSource)
    (st : Shared) :
    (((q.assemble path costing elevation).run st).1 = .error (.crashed .sumOverflow) ↔
        ¬ Totals.Fits ss) ∧
      (∀ j, ((q.assemble path costing elevation).run st).1 = .ok j →
        ∃ t : Totals, j.durations = some t.durations ∧ j.distances = some t.distances ∧
          t.others = [0, 0, 0, 0] ∧ t.Exact j.sections) ∧
      (Trip.ofPath costing.mode path = .ok .whole → Totals.Fits ss) := by
  refine ⟨?_, fun j hj => ?_, fun hwhole => ?_⟩
  · rw [run_assemble_eq_crashed_iff hplan, overflows_sum_iff]
  · have hleads := Procedure.leads_of_run (Prod.ext hj rfl)
    obtain ⟨t, -, hcounts, hdurations, hdistances⟩ := totals_of_assemble hleads
    exact ⟨t, hdurations, hdistances, hcounts.others, hcounts.toExact (summands_of_assemble hleads)⟩
  · obtain ⟨trip, htrip, hss⟩ := forall₂_of_plan hplan
    cases htrip.symm.trans hwhole
    exact Totals.fits_of_length_le (Nat.le_of_eq hss.length_eq.symm)

/-- The hired bike is walked and ridden for a short time. -/
theorem exact_hire :
    ∃ ss, plan ⟨1000, true, true⟩ hire hireCosting = .ok ss ∧ Totals.Fits ss ∧
      ∃ j, ((assemble ⟨1000, true, true⟩ hire hireCosting none).run
          { caches := .ofCapacities fun _ => 1 }).1 = .ok j ∧
        ∃ t : Totals, j.durations = some t.durations ∧ t.Exact j.sections ∧
          t.durations = { total := 340, walking := 100, bike := 60 } := by
  have hrun : ((assemble ⟨1000, true, true⟩ hire hireCosting none).run
      { caches := .ofCapacities fun _ => 1 }).1.map (·.durations) =
      .ok (some { total := 340, walking := 100, bike := 60 }) := by decide +kernel
  have hplanned : (plan ⟨1000, true, true⟩ hire hireCosting).map (·.length) = .ok 5 := by
    decide +kernel
  obtain ⟨j, hj, hannounced⟩ := exists_of_map_eq_ok hrun
  obtain ⟨ss, hplan, -⟩ := exists_of_map_eq_ok hplanned
  obtain ⟨hcrash, hexact, -⟩ := exact_iff_fits hplan none
    { caches := .ofCapacities fun _ => 1 }
  have hfits : Totals.Fits ss := Decidable.not_not.1 fun hover => by
    cases hj.symm.trans (hcrash.2 hover)
  obtain ⟨t, hdurations, -, -, ht⟩ := hexact j hj
  exact ⟨ss, hplan, hfits, j, hj, t, hdurations, ht,
    Option.some.inj (hdurations.symm.trans hannounced)⟩

/-- The way with the hired bike, with as long a walk to the station as a message can carry. -/
def hireFar : Path :=
  { hire with
    maneuvers := hire.maneuvers.set 0
      { start := 0, time := 2147483647, instruction := some "Walk." }
    elapsed := 2147483927 }

/-- Walked for that long and for 40 seconds more, the way is planned, each section with a duration
that fits, and its journey crashes. -/
theorem not_exact_hireFar :
    ∃ ss, plan ⟨1000, true, true⟩ hireFar hireCosting = .ok ss ∧
      ss.map (·.duration) = [2147483647, 120, 60, 60, 40] ∧
      Section.sumOn .seconds .pedestrian ss = 2147483687 ∧
      ((assemble ⟨1000, true, true⟩ hireFar hireCosting none).run
        { caches := .ofCapacities fun _ => 1 }).1 =
        .error (.crashed (.said "attempt to add with overflow")) := by
  have hplanned : (plan ⟨1000, true, true⟩ hireFar hireCosting).map
      (fun ss => (ss.map (·.duration), Section.sumOn .seconds .pedestrian ss)) =
      .ok ([2147483647, 120, 60, 60, 40], 2147483687) := by decide +kernel
  obtain ⟨ss, hplan, hvalues⟩ := exists_of_map_eq_ok hplanned
  obtain ⟨hdurations, hwalked⟩ := Prod.mk.inj hvalues
  refine ⟨ss, hplan, hdurations, hwalked, ?_⟩
  refine (run_assemble_eq_crashed_iff hplan _).2 (overflows_sum_iff.2 fun hfits => ?_)
  have hmax := hfits .seconds .pedestrian
  rw [hwalked] at hmax
  exact absurd hmax (by decide)

end JourneyQuery

end Wayfinding
