import Wayfinding.Proofs.Journey.Overflow
import Wayfinding.Proofs.Journey.Range

/-!
# The marks of a path that shares no bike

Only a bike-share trip is split at the marks of its path, but any leg is relieved of the time for
the stop that its first maneuver is marked with. So a journey in another mode is the one along the
path without marks, except for one thing: it is shorter when the path starts with a mark.

Main definitions: `Path.unmarked`, `Path.timeUnsplit`, `Section.lasting`,
`JourneyQuery.sectionsUnsplit`.
Main lemmas: `Leg.streetSection_unmarked`, `JourneyQuery.run_assemble_unsplit`,
`JourneyQuery.run_assemble_eq_iff`.
-/

namespace Wayfinding

/-- The maneuver without a mark. -/
def Maneuver.unmarked (m : Maneuver) : Maneuver := { m with action := .none }

namespace Path

variable {path : Path} {first last i : Nat}

/-- The path without marks. -/
def unmarked (path : Path) : Path := { path with maneuvers := path.maneuvers.map (·.unmarked) }

/-- How long a path lasts that is travelled in one leg: what its maneuvers take, less what a stop
costs where it starts. -/
def timeUnsplit (path : Path) (costs : BikeShareCosts) : Int32 :=
  Leg.cut ((Leg.street 0 path.maneuvers.length false).seconds path costs)

/-- Marks are removed once. -/
lemma unmarked_unmarked (path : Path) : path.unmarked.unmarked = path.unmarked := by
  simp only [unmarked, List.map_map]
  rfl

/-- A path without marks has as many maneuvers. -/
lemma length_unmarked : path.unmarked.maneuvers.length = path.maneuvers.length :=
  List.length_map _

/-- A path without marks has the same points. -/
lemma point_unmarked : path.unmarked.point i = path.point i := rfl

/-- A path without marks has the same stretches. -/
lemma points_unmarked : path.unmarked.points first last = path.points first last := rfl

/-- The maneuvers of a path without marks are those of the path, each without its mark. -/
lemma maneuver_unmarked :
    path.unmarked.maneuver i = (path.maneuver i).map Maneuver.unmarked := by
  unfold maneuver
  rw [length_unmarked, unmarked, List.getElem?_map]
  cases path.maneuvers[i]? <;> rfl

/-- A path without marks arrives at the same place. -/
lemma finish_unmarked : path.unmarked.finish last =
    (path.finish last).map fun x => (x.1, x.2.1, x.2.2.unmarked) := by
  unfold finish
  simp only [length_unmarked, maneuver_unmarked, point_unmarked]
  split
  · change (path.point (path.shape.length - 1) >>= _) = _
    cases path.point (path.shape.length - 1) with
    | error halt => rfl
    | ok c => cases path.maneuver (path.maneuvers.length - 1) <;> rfl
  · cases path.maneuver last with
    | error halt => rfl
    | ok m =>
      change (path.point m.start >>= _) = Except.map _ (path.point m.start >>= _)
      cases path.point m.start <;> rfl

/-- The parts of a path without marks are those of the path, without their marks. -/
lemma part_unmarked : path.unmarked.part first last = (path.part first last).map (·.unmarked) := by
  rw [part, part, unmarked, List.map_drop, List.map_take]

/-- The items of a path without marks are those of the path. -/
lemma between_unmarked (instructions : Bool) :
    PathItem.between path.unmarked first last instructions =
      PathItem.between path first last instructions := by
  have hitems : PathItem.ofPath path.unmarked instructions = PathItem.ofPath path instructions := by
    refine List.ext_getElem? fun i => ?_
    rw [PathItem.ofPath, PathItem.ofPath, List.getElem?_mapIdx, List.getElem?_mapIdx,
      length_unmarked, unmarked, List.getElem?_map, Option.map_map]
    rfl
  rw [PathItem.between, PathItem.between, hitems]

end Path

/-- The section with another duration. -/
def Section.lasting (duration : Int32) (s : Section) : Section :=
  { s with
    duration := duration
    street := s.street.map fun part => { part with duration := duration } }

namespace Leg

variable {path : Path} {costs : BikeShareCosts} {instructions stations : Bool} {first last : Nat}

/-- A mark does not show at an end of a section. -/
lemma endpoint_unmarked (stations : Bool) (g : Graph) (c : Coordinate) (m : Maneuver) :
    endpoint stations g c m.unmarked = endpoint stations g c m := by
  cases stations with
  | false => rfl
  | true => cases g <;> rfl

/-- Maneuvers without marks are as long. -/
lemma length_map_unmarked (maneuvers : List Maneuver) :
    length (maneuvers.map (·.unmarked)) = length maneuvers := by
  rw [length, length, List.map_map]
  rfl

/-- A leg becomes the same section with marks as without them, but for its duration. -/
lemma streetSection_unmarked (path : Path) :
    streetSection path costs instructions first last stations =
    (streetSection path.unmarked costs instructions first last stations).map
      (.lasting (cut ((street first last stations).seconds path costs))) := by
  cases hstart : path.maneuver first with
  | error halt =>
    rw [streetSection, streetSection, Path.maneuver_unmarked, hstart]
    rfl
  | ok start =>
    cases hfinish : path.finish last with
    | error halt =>
      rw [streetSection, streetSection, Path.maneuver_unmarked, hstart, Path.finish_unmarked,
        hfinish]
      rfl
    | ok ends =>
      obtain ⟨bound, target, arrival⟩ := ends
      have htime : time costs start (path.part first last) =
          cut ((street first last stations).seconds path costs) := by
        rw [seconds, Path.actionAt_eq (Path.maneuver_eq_ok.1 hstart)]
        rfl
      simp only [streetSection, Path.maneuver_unmarked, hstart, Path.finish_unmarked, hfinish,
        Path.points_unmarked, Path.point_unmarked, Path.part_unmarked, Path.between_unmarked,
        length_map_unmarked, ← htime]
      change (path.points start.start bound >>= _) =
        Except.map _ (path.points start.start bound >>= _)
      cases path.points start.start bound with
      | error halt => rfl
      | ok coordinates =>
        change (path.point start.start >>= _) = Except.map _ (path.point start.start >>= _)
        cases path.point start.start with
        | error halt => rfl
        | ok source =>
          simp only [endpoint_unmarked]
          rfl

end Leg

/-- Where no bike is hired, a path is travelled in one leg. -/
lemma Trip.ofPath_of_ne {mode : Mode} (path : Path) (h : mode ≠ .bss) :
    ofPath mode path = .ok .whole := by
  cases mode with
  | bss => exact absurd rfl h
  | _ => rfl

/-- How long a section lasts does not matter for its profile. -/
lemma Section.withProfile_lasting (elevation : Option ElevationSource) (duration : Int32)
    (s : Section) : (s.lasting duration).withProfile elevation =
      (s.withProfile elevation).bind fun s => .done (s.lasting duration) := by
  have hstreet : (s.lasting duration).street =
      s.street.map fun part => { part with duration := duration } := rfl
  cases elevation with
  | none => rfl
  | some lookup =>
    cases hpart : s.street with
    | none =>
      simp only [withProfile, hstreet, hpart, Option.map_none]
      rfl
    | some part =>
      have hprofile : (s.lasting duration).hasProfile { part with duration := duration } =
          s.hasProfile part := rfl
      simp only [withProfile, hstreet, hpart, Option.map_some, hprofile]
      by_cases h : s.hasProfile part
      · rw [if_pos h, if_pos h]
        rfl
      · rw [if_neg h, if_neg h]
        rfl

namespace JourneyQuery

variable {q : JourneyQuery} {path path' : Path} {costing : Costing} {costs : BikeShareCosts}
  {elevation : Option ElevationSource} {ss : List Section}

/-- The sections of a path that is travelled in one leg. -/
def sectionsUnsplit (q : JourneyQuery) (path : Path) (costs : BikeShareCosts)
    (elevation : Option ElevationSource) : Procedure (List Section) :=
  q.sections path costs elevation (Trip.whole.legs path.maneuvers.length)

/-- The sections along a path are those along the path without marks, but for their durations. -/
lemma sectionsUnsplit_unmarked : q.sectionsUnsplit path costs elevation =
    (q.sectionsUnsplit path.unmarked costs elevation).bind fun ss =>
      .done (ss.map (.lasting (path.timeUnsplit costs))) := by
  simp only [sectionsUnsplit, Trip.legs, Path.length_unmarked, sections, Leg.toSection]
  rw [Leg.streetSection_unmarked path]
  cases Leg.streetSection path.unmarked costs q.instructions 0 path.maneuvers.length false with
  | error halt => rfl
  | ok s =>
    change ((s.lasting _).withProfile elevation).bind _ = ((s.withProfile elevation).bind _).bind _
    rw [Section.withProfile_lasting, Procedure.bind_assoc, Procedure.bind_assoc]
    rfl

/-- In another mode than bike share, the journey is the one along the path without marks, but for
how long its section lasts. -/
lemma run_assemble_unsplit (hmode : costing.mode ≠ .bss) (st : Shared) :
    (q.assemble path costing elevation).run st =
      (((q.sectionsUnsplit path.unmarked costing.bikeShare elevation).run st).1.bind fun ss =>
          (q.journey path.unmarked
            (ss.map (.lasting (path.timeUnsplit costing.bikeShare)))).announced.mapError .crashed,
        ((q.sectionsUnsplit path.unmarked costing.bikeShare elevation).run st).2) := by
  rw [← Procedure.run_bind_risk]
  refine congrArg (Procedure.run · st) ?_
  unfold assemble
  rw [Trip.ofPath_of_ne path hmode]
  change (q.sectionsUnsplit path costing.bikeShare elevation).bind _ = _
  rw [sectionsUnsplit_unmarked, Procedure.bind_assoc]
  rfl

/-- What is planned along a path that is travelled in one leg is the section along the path without
marks, but for how long it lasts. -/
lemma plan_unsplit (q : JourneyQuery) (path : Path) (hmode : costing.mode ≠ .bss)
    (elevation : Option ElevationSource) (st : Shared) : q.plan path costing =
      ((q.sectionsUnsplit path.unmarked costing.bikeShare elevation).run st).1.map fun ss =>
        (ss.map (.lasting (path.timeUnsplit costing.bikeShare))).map Section.bare := by
  have hplan := q.run_sectionsWith_bare path costing.bikeShare
    (Trip.whole.legs path.maneuvers.length) (fun _ => elevation) st
  rw [← sections_eq_sectionsWith, ← plan_eq (Trip.ofPath_of_ne path hmode)] at hplan
  change ((q.sectionsUnsplit path costing.bikeShare elevation).run st).1.map _ = _ at hplan
  rw [← hplan, sectionsUnsplit_unmarked, Procedure.run_bind_done]
  cases ((q.sectionsUnsplit path.unmarked costing.bikeShare elevation).run st).1 <;> rfl

/-- A path that is travelled in one leg does not fail to be planned because a difference overflows:
it leaves its shape, or has no maneuvers. -/
lemma ne_of_plan_eq_error {halt : Halt} (hmode : costing.mode ≠ .bss)
    (h : q.plan path costing = .error halt) : halt ≠ .crashed .differenceOverflow := by
  obtain ⟨leg, hleg, hhalt⟩ := exists_of_plan_eq_error (Trip.ofPath_of_ne path hmode) h
  rintro rfl
  by_cases hne : path.maneuvers = []
  · obtain rfl := List.mem_singleton.1 hleg
    have hnone : path.maneuvers[0]? = none := by
      rw [hne]
      rfl
    obtain hstart | ⟨start, hstart, -⟩ := error_of_bind_eq_error hhalt
    · exact Path.maneuver_ne_difference hstart
    · cases hnone.symm.trans (Path.maneuver_eq_ok.1 hstart)
  · have hwithin := Trip.within_legs hne (Trip.ofPath_of_ne path hmode) leg hleg
    obtain ⟨_, _, h⟩ := Leg.outside_of_toSection hwithin hhalt
    cases h

/-- A journey in one leg crashes if and only if it passes the middle of the time line. -/
lemma announced_unsplit (path : Path) {st : Shared} (hmode : costing.mode ≠ .bss)
    (hss : ((q.sectionsUnsplit path.unmarked costing.bikeShare elevation).run st).1 = .ok ss) :
    (q.PassesMiddle (path.timeUnsplit costing.bikeShare).toInt ∧
      (q.journey path.unmarked
        (ss.map (.lasting (path.timeUnsplit costing.bikeShare)))).announced =
        .error .differenceOverflow) ∨
    (¬ q.PassesMiddle (path.timeUnsplit costing.bikeShare).toInt ∧
      ∃ t, (q.journey path.unmarked
        (ss.map (.lasting (path.timeUnsplit costing.bikeShare)))).announced =
        .ok ((q.journey path.unmarked
          (ss.map (.lasting (path.timeUnsplit costing.bikeShare)))).withTotals t)) := by
  have hplan := q.plan_unsplit path hmode elevation st
  rw [hss] at hplan
  obtain ⟨trip, htrip, hlegs⟩ := forall₂_of_plan hplan
  cases (Trip.ofPath_of_ne path hmode).symm.trans htrip
  have hlength := hlegs.length_eq
  rw [List.length_map, List.length_map] at hlength
  obtain ⟨s, rfl⟩ := List.length_eq_one_iff.1 hlength.symm
  have hover {crash : Crash} : (q.journey path _).totals = .error crash ↔ q.Overflows _ crash :=
    totals_eq_error_iff hplan
  have htotal : Section.total ([s].map (.lasting (path.timeUnsplit costing.bikeShare))) =
      (path.timeUnsplit costing.bikeShare).toInt := Int.add_zero _
  have hfits : Totals.Fits ([s].map (.lasting (path.timeUnsplit costing.bikeShare))) :=
    Totals.fits_of_length_le (Nat.le_refl 1)
  change ∀ {crash}, (q.journey path.unmarked _).totals = .error crash ↔ _ at hover
  unfold Journey.announced
  by_cases hpasses : q.PassesMiddle (path.timeUnsplit costing.bikeShare).toInt
  · rw [hover.2 (.difference hfits (htotal ▸ hpasses))]
    exact .inl ⟨hpasses, rfl⟩
  · refine .inr ⟨hpasses, ?_⟩
    cases ht : (q.journey path.unmarked
        ([s].map (.lasting (path.timeUnsplit costing.bikeShare)))).totals with
    | ok t => exact ⟨t, rfl⟩
    | error crash =>
      cases hover.1 ht with
      | sum hnot => exact absurd hfits hnot
      | difference _ hpasses' => exact absurd (htotal ▸ hpasses') hpasses

/-- How long its sections last can be told from a journey. -/
lemma lasting_inj {t t' : Int32} (hne : ss ≠ [])
    (h : (q.journey path (ss.map (.lasting t))).sections =
      (q.journey path (ss.map (.lasting t'))).sections) : t = t' := by
  obtain ⟨s, ss, rfl⟩ := List.exists_cons_of_ne_nil hne
  have hdurations (t : Int32) :
      (q.journey path ((s :: ss).map (Section.lasting t))).sections.map Section.duration =
        ((s :: ss).map (Section.lasting t)).map Section.duration :=
    map_journey (fun _ _ _ => rfl) (fun _ _ => rfl)
  have heq := hdurations t
  rw [h, hdurations t'] at heq
  exact (List.cons.inj heq).1.symm

/-- A journey in one leg fails in no other way. -/
lemma announced_unsplit_ne {halt : Halt} (path : Path) {st : Shared} (hmode : costing.mode ≠ .bss)
    (hss : ((q.sectionsUnsplit path.unmarked costing.bikeShare elevation).run st).1 = .ok ss)
    (hhalt : halt ≠ .crashed .differenceOverflow) :
    (q.journey path.unmarked
      (ss.map (.lasting (path.timeUnsplit costing.bikeShare)))).announced.mapError .crashed ≠
      .error halt := by
  obtain ⟨-, hends⟩ | ⟨-, t, hends⟩ := announced_unsplit path hmode hss
  · rw [hends]
    exact fun h => hhalt (Except.error.inj h).symm
  · rw [hends]
    nofun

/-- Along paths that differ in their marks, the journeys in one leg are the same if and only if they
take equally long or both crash. -/
lemma announced_unsplit_eq_iff {st : Shared} (hmode : costing.mode ≠ .bss)
    (hpaths : path.unmarked = path'.unmarked)
    (hss : ((q.sectionsUnsplit path.unmarked costing.bikeShare elevation).run st).1 = .ok ss) :
    (q.journey path.unmarked
        (ss.map (.lasting (path.timeUnsplit costing.bikeShare)))).announced =
      (q.journey path.unmarked
        (ss.map (.lasting (path'.timeUnsplit costing.bikeShare)))).announced ↔
      path.timeUnsplit costing.bikeShare = path'.timeUnsplit costing.bikeShare ∨
        q.PassesMiddle (path.timeUnsplit costing.bikeShare).toInt ∧
          q.PassesMiddle (path'.timeUnsplit costing.bikeShare).toInt := by
  have hends' := announced_unsplit path' hmode (hpaths ▸ hss)
  rw [← hpaths] at hends'
  obtain ⟨hpasses, hends⟩ | ⟨hpasses, t, hends⟩ := announced_unsplit path hmode hss
  · rw [hends]
    obtain ⟨hpasses', hends'⟩ | ⟨hpasses', t', hends'⟩ := hends'
    · rw [hends']
      exact iff_of_true rfl (.inr ⟨hpasses, hpasses'⟩)
    · rw [hends']
      refine iff_of_false nofun ?_
      rintro (htime | ⟨-, hboth⟩)
      · exact hpasses' (htime ▸ hpasses)
      · exact hpasses' hboth
  · refine ⟨fun h => .inl ?_, ?_⟩
    · obtain ⟨-, hends'⟩ | ⟨-, t', hends'⟩ := hends'
      · rw [hends, hends'] at h
        cases h
      · rw [hends, hends'] at h
        have hsections := congrArg Journey.sections (Except.ok.inj h)
        rw [Journey.sections_withTotals, Journey.sections_withTotals] at hsections
        have hne : ss ≠ [] := by
          rintro rfl
          have hlegs := of_sections (Procedure.leads_of_run (Prod.ext hss rfl))
          exact Trip.whole.legs_ne_nil _ (List.forall₂_nil_right_iff.1 hlegs)
        exact lasting_inj hne hsections
    · rintro (htime | ⟨hboth, -⟩)
      · rw [htime]
      · exact absurd hboth hpasses

/-- In another mode than bike share, let two paths differ in nothing but their marks. The same calls
are made along both, and either both fail, for the same reason, or none, unless a journey crashes
because it passes the middle of the time line. The results along the paths are the same if and only
if both fail otherwise, or the paths take equally long without the stops that they start with, or
both journeys pass the middle of the time line. -/
theorem run_assemble_eq_iff (hmode : costing.mode ≠ .bss) (hpaths : path.unmarked = path'.unmarked)
    (s : Shared) :
    ((q.assemble path costing elevation).run s).2 =
        ((q.assemble path' costing elevation).run s).2 ∧
      (∀ halt ≠ .crashed .differenceOverflow,
        ((q.assemble path costing elevation).run s).1 = .error halt ↔
          ((q.assemble path' costing elevation).run s).1 = .error halt) ∧
      (((q.assemble path costing elevation).run s).1 =
          ((q.assemble path' costing elevation).run s).1 ↔
        (∃ halt ≠ .crashed .differenceOverflow,
            ((q.assemble path costing elevation).run s).1 = .error halt) ∨
          path.timeUnsplit costing.bikeShare = path'.timeUnsplit costing.bikeShare ∨
          q.PassesMiddle (path.timeUnsplit costing.bikeShare).toInt ∧
            q.PassesMiddle (path'.timeUnsplit costing.bikeShare).toInt) := by
  rw [run_assemble_unsplit hmode, run_assemble_unsplit hmode, ← hpaths]
  refine ⟨rfl, ?_⟩
  cases hss : ((q.sectionsUnsplit path.unmarked costing.bikeShare elevation).run s).1 with
  | error halt =>
    have hplan := q.plan_unsplit path hmode elevation s
    rw [hss] at hplan
    dsimp only [Except.bind]
    exact ⟨fun _ _ => Iff.rfl, iff_of_true rfl (.inl ⟨halt, ne_of_plan_eq_error hmode hplan, rfl⟩)⟩
  | ok ss =>
    have hfails {halt : Halt} (hhalt : halt ≠ .crashed .differenceOverflow) :=
      announced_unsplit_ne path hmode hss hhalt
    have hfails' {halt : Halt} (hhalt : halt ≠ .crashed .differenceOverflow) :=
      announced_unsplit_ne path' hmode (hpaths ▸ hss) hhalt
    rw [← hpaths] at hfails'
    refine ⟨fun halt hhalt => iff_of_false (hfails hhalt) (hfails' hhalt), ?_⟩
    change Except.mapError _ _ = Except.mapError _ _ ↔ _
    rw [mapError_crashed_inj, announced_unsplit_eq_iff hmode hpaths hss]
    refine ⟨.inr, fun h => h.resolve_left ?_⟩
    rintro ⟨halt, hhalt, hhalts⟩
    exact hfails hhalt hhalts

/-- Who walks along the way with the hired bike is not stopped by its marks. -/
theorem marks_hire :
    ∃ j, ((assemble ⟨1000, false, true⟩ hire { hireCosting with mode := .walking } none).run
        { caches := .ofCapacities fun _ => 1 }).1 = .ok j ∧
      ((assemble ⟨1000, false, true⟩ hire.unmarked { hireCosting with mode := .walking } none).run
        { caches := .ofCapacities fun _ => 1 }).1 = .ok j ∧
      j.sections.map (·.duration) = [340] := by
  have hrun : ((assemble ⟨1000, false, true⟩ hire { hireCosting with mode := .walking } none).run
      { caches := .ofCapacities fun _ => 1 }).1.map (fun j => j.sections.map (·.duration)) =
      .ok [340] := by decide +kernel
  obtain ⟨j, hj, hdurations⟩ := exists_of_map_eq_ok hrun
  have hsame :
      ((assemble ⟨1000, false, true⟩ hire { hireCosting with mode := .walking } none).run
          { caches := .ofCapacities fun _ => 1 }).1 =
        ((assemble ⟨1000, false, true⟩ hire.unmarked { hireCosting with mode := .walking } none).run
          { caches := .ofCapacities fun _ => 1 }).1 :=
    (run_assemble_eq_iff (by decide) hire.unmarked_unmarked.symm _).2.2.2
      (.inr (.inl (by decide)))
  exact ⟨j, hj, hsame.symm.trans hj, hdurations⟩

/-- A walk of three minutes that is marked where it starts. -/
def markedWalk : Path where
  maneuvers :=
    [{ action := .rent, start := 0, time := 180, instruction := some "Walk." },
      { start := 1, instruction := some "You have arrived." }]
  shape := [⟨.ofNat 0, .ofNat 1⟩, ⟨.ofNat 0, .ofNat 2⟩]
  elapsed := 180

/-- The mark costs the walk two of its three minutes, although no bike is taken. -/
theorem not_same_of_markedWalk :
    markedWalk.unmarked = markedWalk.unmarked.unmarked ∧
      ((assemble ⟨1000, true, true⟩ markedWalk { hireCosting with mode := .walking } none).run
          { caches := .ofCapacities fun _ => 1 }).1 ≠
        ((assemble ⟨1000, true, true⟩ markedWalk.unmarked { hireCosting with mode := .walking }
          none).run { caches := .ofCapacities fun _ => 1 }).1 := by
  have hmarked :
      ((assemble ⟨1000, true, true⟩ markedWalk { hireCosting with mode := .walking } none).run
        { caches := .ofCapacities fun _ => 1 }).1.map
          (fun j => (j.duration, j.sections.map (·.duration))) = .ok (180, [60]) := by
    decide +kernel
  have hunmarked :
      ((assemble ⟨1000, true, true⟩ markedWalk.unmarked { hireCosting with mode := .walking }
        none).run { caches := .ofCapacities fun _ => 1 }).1.map
          (fun j => (j.duration, j.sections.map (·.duration))) = .ok (180, [180]) := by
    decide +kernel
  refine ⟨markedWalk.unmarked_unmarked.symm, fun hsame => ?_⟩
  rw [hsame, hunmarked] at hmarked
  exact absurd hmarked (by decide)

end JourneyQuery

end Wayfinding
