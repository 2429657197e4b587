import Wayfinding.Proofs.Journey.Overflow

/-!
# A journey planned backward

A journey to a requested arrival is the journey from this instant as its departure, moved back in
time: its sections by what they take together, and what it announces by what the path takes. Nothing
else about the two differs, nor do the calls that are made for them or the reason why they fail,
unless one of the two passes the middle of the time line: then it crashes, and the other one does
not.

Main definitions: `Journey.earlier`, `JourneyQuery.HasRoomAround`, `JourneyQuery.PassesEither`.
Main lemmas: `Section.chainBack_chainFrom`, `JourneyQuery.journey_backward`,
`JourneyQuery.announced_backward`, `JourneyQuery.run_assemble_backward`.
-/

namespace Wayfinding

namespace Section

variable {ss : List Section} {index d : Nat} {clock arrival : UInt64}

/-- The section some seconds earlier. -/
def earlier (seconds : Int) (s : Section) : Section :=
  { s with
    beginsAt := Instant.shift s.beginsAt (-seconds)
    endsAt := Instant.shift s.endsAt (-seconds) }

/-- Sections that have to end some time before they do so forward are the same sections that much
earlier. -/
lemma chainBack_chainFrom (h : ∀ s ∈ ss, 0 ≤ s.duration.toInt)
    (hfits : (clock.toNat : Int) + total ss ≤ Instant.last) (hd : d ≤ clock.toNat)
    (harrival : (arrival.toNat : Int) + d = clock.toNat + total ss) :
    chainBack arrival (chainFrom index clock ss) = (chainFrom index clock ss).map (earlier d) := by
  induction ss generalizing index clock with
  | nil => rfl
  | cons s ss ih =>
    obtain ⟨hs, hss⟩ := List.forall_mem_cons.1 h
    have htotal := total_nonneg hss
    rw [total_cons] at hfits harrival
    have hend : ((s.startingAt index clock).endsAt.toNat : Int) =
        clock.toNat + s.duration.toInt := by
      simp only [startingAt, Instant.toNat_shift]
      omega
    set next := (s.startingAt index clock).endsAt with hnext
    have hrest : chainBack arrival (chainFrom (index + 1) next ss) =
        (chainFrom (index + 1) next ss).map (earlier d) := ih hss (by omega) (by omega) (by omega)
    have hstart : startOf (chainBack arrival (chainFrom (index + 1) next ss)) arrival =
        Instant.shift next (-d) := by
      cases ss with
      | nil =>
        rw [total_nil] at harrival
        rw [← UInt64.toNat_inj, Instant.toNat_shift]
        have hlast := Instant.toNat_le_last arrival
        change arrival.toNat = _
        omega
      | cons s' ss =>
        rw [hrest]
        rfl
    have hbegin : Instant.shift (Instant.shift next (-d)) (-s.duration.toInt) =
        Instant.shift clock (-d) := by
      rw [← UInt64.toNat_inj, Instant.toNat_shift, Instant.toNat_shift, Instant.toNat_shift]
      omega
    rw [chainFrom, chainBack, ← hnext, hstart, hrest, List.map_cons]
    refine congrArg (· :: _) ?_
    simp only [endingAt, startingAt, hbegin]
    rfl

end Section

/-! ### Journeys moved back -/

namespace Journey

/-- The journey moved to an earlier time: its sections by some seconds, and what it announces by
others. -/
def earlier (ofSections announced : Int) (j : Journey) : Journey :=
  { j with
    departsAt := Instant.shift j.departsAt (-announced)
    arrivesAt := Instant.shift j.arrivesAt (-announced)
    sections := j.sections.map (.earlier ofSections) }

/-- The totals by mode heed no instants. -/
lemma ofSections_earlier (j : Journey) (d announced : Int) :
    Totals.ofSections (j.earlier d announced).sections = Totals.ofSections j.sections := by
  unfold Totals.ofSections earlier
  rw [List.foldlM_map]
  rfl

end Journey

namespace JourneyQuery

variable {q : JourneyQuery} {path : Path} {costing : Costing} {costs : BikeShareCosts}
  {elevation : Option ElevationSource} {ss : List Section}

/-- The time line has room for some seconds both before the requested instant and after it. -/
def HasRoomAround (q : JourneyQuery) (d : Int) : Prop :=
  d ≤ q.datetime.toNat ∧ (q.datetime.toNat : Int) + d ≤ Instant.last

instance (d : Int) : Decidable (q.HasRoomAround d) := inferInstanceAs (Decidable (_ ∧ _))

/-- Planned backward, the sections are those that were planned forward, but earlier. -/
lemma arrivingAt_departing (hnonneg : ∀ s ∈ ss, 0 ≤ s.duration.toInt)
    (helapsed : path.elapsed ≤ 2147483647)
    (hroom : q.HasRoomAround (max (Section.total ss) path.elapsed)) :
    (q.departing path ss).arrivingAt q.datetime =
      (q.departing path ss).earlier (Section.total ss) path.elapsed := by
  obtain ⟨d, hd⟩ := Int.eq_ofNat_of_zero_le (Section.total_nonneg hnonneg)
  obtain ⟨hbefore, hafter⟩ := hroom
  have hlast := Instant.toNat_le_last q.datetime
  have hsections : Section.chainBack q.datetime (Section.chain q.datetime ss) =
      (Section.chain q.datetime ss).map (.earlier d) :=
    Section.chainBack_chainFrom hnonneg (by omega) (by omega) (by omega)
  have hduration : (Leg.cut path.elapsed).toInt = path.elapsed := by
    rw [Leg.toInt_cut]
    omega
  have harrives : q.datetime =
      Instant.shift (Instant.shift q.datetime path.elapsed) (-path.elapsed) := by
    rw [← UInt64.toNat_inj, Instant.toNat_shift, Instant.toNat_shift]
    omega
  simp only [Journey.arrivingAt, Journey.earlier, departing, hsections, hduration, hd, ← harrives]

/-- Apart from its totals, the journey to an arrival is the journey from there, earlier. -/
lemma journey_backward (hnonneg : ∀ s ∈ ss, 0 ≤ s.duration.toInt)
    (helapsed : path.elapsed ≤ 2147483647)
    (hroom : q.HasRoomAround (max (Section.total ss) path.elapsed)) :
    journey { q with clockwise := false } path ss =
      (journey { q with clockwise := true } path ss).earlier (Section.total ss) path.elapsed :=
  arrivingAt_departing hnonneg helapsed hroom

/-- A journey of so many seconds, in one direction or the other, passes the middle of the time
line. -/
def PassesEither (q : JourneyQuery) (d : Int) : Prop :=
  (q.datetime.toNat : Int) - d < Instant.middle ∧ Instant.middle ≤ (q.datetime.toNat : Int) + d

instance (d : Int) : Decidable (q.PassesEither d) := inferInstanceAs (Decidable (_ ∧ _))

/-- Only the journey forward passes the middle of the time line when it is still to come, and only
the journey backward when it is over. -/
lemma passesMiddle_iff (q : JourneyQuery) (clockwise : Bool) {d : Int} (h0 : 0 ≤ d) :
    PassesMiddle { q with clockwise := clockwise } d ↔
      (q.datetime.toNat < Instant.middle ↔ clockwise = true) ∧ q.PassesEither d := by
  unfold PassesMiddle PassesEither
  cases clockwise with
  | true =>
    simp only [if_true, iff_true]
    omega
  | false =>
    simp only [Bool.false_eq_true, if_false, iff_false]
    omega

/-- Where the time line has room, the total duration is not cut by its ends. -/
lemma span_of_room (q : JourneyQuery) (clockwise : Bool) (path : Path) (hne : ss ≠ [])
    (hnonneg : ∀ s ∈ ss, 0 ≤ s.duration.toInt) (hfew : Section.total ss < Instant.middle)
    (hroom : q.HasRoomAround (Section.total ss)) :
    Journey.span (journey { q with clockwise := clockwise } path ss).sections =
      if PassesMiddle { q with clockwise := clockwise } (Section.total ss) then
        .error .differenceOverflow
      else .ok (Leg.cut (Section.total ss)) := by
  obtain ⟨hbefore, hafter⟩ := hroom
  have hmin : min (Section.total ss) (room { q with clockwise := clockwise }) =
      Section.total ss := by
    unfold room
    dsimp only
    split <;> omega
  rw [span_journey _ path hne hnonneg hfew, hmin]

/-- The announced journeys in both directions differ in their times alone, if and only if none
passes the middle of the time line, or the totals by mode overflow for both. -/
lemma announced_backward (hne : ss ≠ []) (hsummands : ∀ s ∈ ss, s.Summand)
    (hfew : Section.total ss < Instant.middle) (helapsed : path.elapsed ≤ 2147483647)
    (hroom : q.HasRoomAround (max (Section.total ss) path.elapsed)) :
    (journey { q with clockwise := false } path ss).announced =
        (journey { q with clockwise := true } path ss).announced.map
          (fun j => j.earlier (Section.total j.sections) path.elapsed) ↔
      (Totals.Fits ss → ¬ q.PassesEither (Section.total ss)) := by
  have hnonneg : ∀ s ∈ ss, 0 ≤ s.duration.toInt := fun s hs => (hsummands s hs).nonneg .seconds
  have htotal := Section.total_nonneg hnonneg
  have hback := journey_backward hnonneg helapsed hroom
  have hroom' : q.HasRoomAround (Section.total ss) := by
    obtain ⟨hbefore, hafter⟩ := hroom
    constructor <;> omega
  have hsections := Journey.ofSections_earlier
    (journey { q with clockwise := true } path ss) (Section.total ss) path.elapsed
  rw [← hback] at hsections
  unfold Journey.announced Journey.totals
  rw [hsections, q.span_of_room _ path hne hnonneg hfew hroom',
    q.span_of_room _ path hne hnonneg hfew hroom']
  simp only [q.passesMiddle_iff _ htotal, Bool.false_eq_true, iff_true, iff_false]
  obtain ⟨byMode, hbyMode, hcounts⟩ | ⟨hover, hcrash⟩ := Totals.ofSections_cases
    (summands_journey { q with clockwise := true } path hsummands)
  · have hfits : Totals.Fits ss := fun x g => by
      rw [← sumOn_journey { q with clockwise := true } path]
      exact hcounts.fits x g
    rw [hbyMode]
    by_cases hpasses : q.PassesEither (Section.total ss)
    · refine iff_of_false (fun h => ?_) fun h => h hfits hpasses
      -- one of the two crashes, and the other one does not
      by_cases hearly : q.datetime.toNat < Instant.middle
      · rw [if_neg fun h => h.1 hearly, if_pos ⟨hearly, hpasses⟩] at h
        cases h
      · rw [if_pos ⟨hearly, hpasses⟩, if_neg fun h => hearly h.1] at h
        cases h
    · refine iff_of_true ?_ fun _ => hpasses
      rw [if_neg fun h => hpasses h.2, if_neg fun h => hpasses h.2, hback]
      change Except.ok _ =
        Except.ok (Journey.earlier (Section.total (journey _ path ss).sections) _ _)
      rw [total_journey]
      rfl
  · rw [hcrash]
    refine iff_of_true rfl fun hfits => absurd (fun x g => ?_) hover
    rw [sumOn_journey]
    exact hfits x g

/-- The sections do not depend on the direction in which they are put on the time line. -/
lemma sectionsWith_clockwise (q : JourneyQuery) (clockwise : Bool)
    (sources : Nat → Option ElevationSource) (legs : List Leg) :
    sectionsWith { q with clockwise := clockwise } path costs sources legs =
      q.sectionsWith path costs sources legs := by
  induction legs generalizing sources with
  | nil => rfl
  | cons leg legs ih => rw [sectionsWith, sectionsWith, ih]

/-- Let the time line have room for the journey before the requested instant and after it. Whether
it is planned forward or backward from this instant, the same calls are made. Planned backward, the
journey fails for the same reason as forward, or it is the same journey, but that its sections are
earlier by what they take together, and what it announces by what the path takes, if and only if the
journey passes the middle of the time line in neither direction, or its totals by mode overflow. -/
theorem run_assemble_backward (q : JourneyQuery) (path : Path) (costing : Costing)
    (elevation : Option ElevationSource) (st : Shared) (helapsed : path.elapsed ≤ 2147483647)
    (hroom : ∀ ss, q.plan path costing = .ok ss →
      q.HasRoomAround (max (Section.total ss) path.elapsed)) :
    ((assemble { q with clockwise := false } path costing elevation).run st).2 =
        ((assemble { q with clockwise := true } path costing elevation).run st).2 ∧
      (((assemble { q with clockwise := false } path costing elevation).run st).1 =
          ((assemble { q with clockwise := true } path costing elevation).run st).1.map
            (fun j => j.earlier (Section.total j.sections) path.elapsed) ↔
        ∀ ss, q.plan path costing = .ok ss → Totals.Fits ss →
          ¬ q.PassesEither (Section.total ss)) := by
  rw [assemble_eq_assembleWith, assemble_eq_assembleWith]
  cases htrip : Trip.ofPath costing.mode path with
  | error reason =>
    unfold assembleWith plan
    rw [htrip]
    exact ⟨rfl, iff_of_true rfl nofun⟩
  | ok trip =>
    have hplanned := q.run_sectionsWith_bare path costing.bikeShare
      (trip.legs path.maneuvers.length) (fun _ => elevation) st
    rw [← plan_eq htrip] at hplanned
    rw [run_assembleWith_eq htrip, run_assembleWith_eq htrip, q.sectionsWith_clockwise false,
      q.sectionsWith_clockwise true]
    refine ⟨rfl, ?_⟩
    cases hss : ((q.sectionsWith path costing.bikeShare (fun _ => elevation)
        (trip.legs path.maneuvers.length)).run st).1 with
    | error halt =>
      rw [hss] at hplanned
      refine iff_of_true rfl fun ss hplan => ?_
      cases hplanned.trans hplan
    | ok ss =>
      rw [hss] at hplanned
      obtain ⟨hne, hsummands, hfew⟩ := of_plan hplanned.symm
      have hroom' := hroom _ hplanned.symm
      rw [Section.total_map_bare] at hroom'
      change Except.mapError _ _ = (Except.mapError _ _).map _ ↔ _
      rw [map_mapError_crashed, mapError_crashed_inj,
        announced_backward hne hsummands hfew helapsed hroom']
      constructor
      · intro h ss' hplan hfits
        cases hplanned.trans hplan
        rw [Section.total_map_bare]
        exact h (Totals.fits_map_bare.1 hfits)
      · intro h hfits
        rw [← Section.total_map_bare]
        exact h _ hplanned.symm (Totals.fits_map_bare.2 hfits)

/-- The way with the hired bike takes as long as its sections, so that all of it is earlier by as
much. -/
theorem run_assemble_backward_hire :
    ∃ j, ((assemble ⟨1000, true, true⟩ hire hireCosting none).run
        { caches := .ofCapacities fun _ => 1 }).1 = .ok j ∧
      (j.departsAt, j.arrivesAt, Section.total j.sections) = (1000, 1340, 340) ∧
      ((assemble ⟨1000, false, true⟩ hire hireCosting none).run
        { caches := .ofCapacities fun _ => 1 }).1 = .ok (j.earlier 340 340) := by
  have hplanned : (plan ⟨1000, true, true⟩ hire hireCosting).map Section.total = .ok 340 := by
    decide +kernel
  have hrun : ((assemble ⟨1000, true, true⟩ hire hireCosting none).run
      { caches := .ofCapacities fun _ => 1 }).1.map
        (fun j => (j.departsAt, j.arrivesAt, Section.total j.sections)) =
      .ok (1000, 1340, 340) := by decide +kernel
  have hlasts {ss : List Section} (h : plan ⟨1000, true, true⟩ hire hireCosting = .ok ss) :
      Section.total ss = 340 := by
    obtain ⟨ss', hss', htotal⟩ := exists_of_map_eq_ok hplanned
    cases h.symm.trans hss'
    exact htotal
  obtain ⟨j, hj, hvalues⟩ := exists_of_map_eq_ok hrun
  have htotal : Section.total j.sections = 340 := congrArg (·.2.2) hvalues
  obtain ⟨-, hback⟩ := run_assemble_backward ⟨1000, true, true⟩ hire hireCosting none
    { caches := .ofCapacities fun _ => 1 } (by decide) fun ss hss => by
      rw [hlasts hss]
      decide
  refine ⟨j, hj, hvalues, (hback.2 fun ss hss _ => ?_).trans ?_⟩
  · rw [hlasts hss]
    decide
  · rw [hj]
    exact congrArg (fun d => Except.ok (j.earlier d 340)) htotal

/-- Departing 100 seconds before the middle of the time line, the way with the hired bike takes 340
seconds and crashes. With its arrival at this instant, it has a journey. -/
theorem not_backward_hire_middle :
    ∃ ss, plan ⟨9223372036854775708, true, true⟩ hire hireCosting = .ok ss ∧
      Section.total ss = 340 ∧ hire.elapsed = 340 ∧
      HasRoomAround ⟨9223372036854775708, true, true⟩ 340 ∧
      ((assemble ⟨9223372036854775708, true, true⟩ hire hireCosting none).run
        { caches := .ofCapacities fun _ => 1 }).1 =
        .error (.crashed (.said "attempt to subtract with overflow")) ∧
      ∃ j, ((assemble ⟨9223372036854775708, false, true⟩ hire hireCosting none).run
          { caches := .ofCapacities fun _ => 1 }).1 = .ok j ∧
        j.durations = some { total := 340, walking := 100, bike := 60 } := by
  have hplanned : (plan ⟨9223372036854775708, true, true⟩ hire hireCosting).map Section.total =
      .ok 340 := by decide +kernel
  have hcrash : ((assemble ⟨9223372036854775708, true, true⟩ hire hireCosting none).run
      { caches := .ofCapacities fun _ => 1 }).1.map (·.durations) =
      .error (.crashed (.said "attempt to subtract with overflow")) := by decide +kernel
  have hrun : ((assemble ⟨9223372036854775708, false, true⟩ hire hireCosting none).run
      { caches := .ofCapacities fun _ => 1 }).1.map (·.durations) =
      .ok (some { total := 340, walking := 100, bike := 60 }) := by decide +kernel
  obtain ⟨ss, hplan, htotal⟩ := exists_of_map_eq_ok hplanned
  obtain ⟨j, hj, hdurations⟩ := exists_of_map_eq_ok hrun
  exact ⟨ss, hplan, htotal, rfl, by decide, eq_error_of_map_eq_error hcrash, j, hj, hdurations⟩

end JourneyQuery

end Wayfinding
