import Mathlib.Data.List.Chain
import Wayfinding.Proofs.Journey.Sections

/-!
# Time along a journey

The sections of a journey follow each other without a gap, from the requested departure or up to the
requested arrival. Each lasts as long as it says, unless the time line ends before the journey does.

Main definitions: `Section.Exact`, `Section.Chained`, `JourneyQuery.Schedules`.
Main lemmas: `Section.chained_chainFrom`, `Section.chained_chainBack`,
`JourneyQuery.schedules_of_assemble`.
-/

namespace Wayfinding

open Procedure (Leads)

variable {P : Shared → Prop} {clock arrival : UInt64}

/-- No instant is after the last one. -/
lemma Instant.toNat_le_last (t : UInt64) : t.toNat ≤ Instant.last := Nat.le_sub_one_of_lt t.toNat_lt

/-- An instant is moved as far as the time line goes. -/
lemma Instant.toNat_shift (t : UInt64) (seconds : Int) :
    (Instant.shift t seconds).toNat = min Instant.last ((t.toNat : Int) + seconds).toNat := by
  unfold shift
  apply UInt64.toNat_ofNat_of_lt'
  have hlast : Instant.last < UInt64.size := by decide
  omega

namespace Section

variable {s : Section} {ss : List Section} {index : Nat}

/-- The section lasts as long as it says. -/
def Exact (s : Section) : Prop := (s.endsAt.toNat : Int) - s.beginsAt.toNat = s.duration.toInt

/-- Each section ends where the next one begins, and none ends before it begins. -/
structure Chained (ss : List Section) : Prop where
  joined : ss.IsChain fun s next => s.endsAt = next.beginsAt
  ordered : ∀ s ∈ ss, s.beginsAt ≤ s.endsAt

/-- Seconds of all sections. -/
def total (ss : List Section) : Int := (ss.map fun s => s.duration.toInt).foldr (· + ·) 0

/-- No sections take no time. -/
@[simp] lemma total_nil : total [] = 0 := rfl

/-- One more section takes its own time. -/
@[simp] lemma total_cons : total (s :: ss) = s.duration.toInt + total ss := rfl

/-- Some sections and others take the time of both together. -/
lemma total_append (ss ss' : List Section) : total (ss ++ ss') = total ss + total ss' := by
  induction ss with
  | nil => exact (Int.zero_add _).symm
  | cons s ss ih => rw [List.cons_append, total_cons, total_cons, ih, Int.add_assoc]

/-- If no section takes less than no time, neither do all of them. -/
lemma total_nonneg (h : ∀ s ∈ ss, 0 ≤ s.duration.toInt) : 0 ≤ total ss := by
  induction ss with
  | nil => exact Int.le_refl 0
  | cons s ss ih =>
    obtain ⟨hs, hss⟩ := List.forall_mem_cons.1 h
    rw [total_cons]
    exact Int.add_nonneg hs (ih hss)

/-- The section as it was planned: without its name, its place on the time line and the heights
along it. -/
def plan (s : Section) : Section := { s.bare with id := "", beginsAt := 0, endsAt := 0 }

/-! ### Forward -/

/-- What heeds neither names nor instants is the same for sections on the time line. -/
lemma map_chainFrom {α : Type} {f : Section → α}
    (hf : ∀ s index t, f (startingAt s index t) = f s) :
    (chainFrom index clock ss).map f = ss.map f := by
  induction ss generalizing index clock with
  | nil => rfl
  | cons s ss ih => rw [chainFrom, List.map_cons, List.map_cons, hf, ih]

/-- Sections take as long wherever they begin. -/
lemma total_chain : total (chain clock ss) = total ss :=
  congrArg (List.foldr (· + ·) 0) (map_chainFrom fun _ _ _ => rfl)

/-- No section takes less than no time when it is moved. -/
lemma duration_nonneg_chain (clock : UInt64) (h : ∀ s ∈ ss, 0 ≤ s.duration.toInt) :
    ∀ s ∈ chain clock ss, 0 ≤ s.duration.toInt := by
  have hmap : (chain clock ss).map (·.duration.toInt) = ss.map (·.duration.toInt) :=
    map_chainFrom fun _ _ _ => rfl
  rw [← List.forall_mem_map (P := (0 ≤ ·))] at h ⊢
  rw [hmap]
  exact h

/-- Sections that are moved are still there. -/
lemma chain_ne_nil (clock : UInt64) (h : ss ≠ []) : chain clock ss ≠ [] := by
  cases ss with
  | nil => exact absurd rfl h
  | cons s ss => exact List.cons_ne_nil _ _

/-- The first section begins when it is told to. -/
lemma head?_chainFrom (index : Nat) (clock : UInt64) (h : ss ≠ []) :
    (chainFrom index clock ss).head?.map (·.beginsAt) = some clock := by
  cases ss with
  | nil => exact absurd rfl h
  | cons s ss => rfl

/-- Sections that are chained forward follow each other. -/
lemma chained_chainFrom (h : ∀ s ∈ ss, 0 ≤ s.duration.toInt) :
    Chained (chainFrom index clock ss) := by
  induction ss generalizing index clock with
  | nil => exact ⟨.nil, by simp [chainFrom]⟩
  | cons s ss ih =>
    obtain ⟨hs, hss⟩ := List.forall_mem_cons.1 h
    obtain ⟨hjoined, hordered⟩ :
      Chained (chainFrom (index + 1) (s.startingAt index clock).endsAt ss) := ih hss
    refine ⟨List.isChain_cons.2 ⟨fun next hnext => ?_, hjoined⟩,
      List.forall_mem_cons.2 ⟨?_, hordered⟩⟩
    · cases ss with
      | nil => cases hnext
      | cons s' ss =>
        cases hnext
        rfl
    · have hclock := Instant.toNat_le_last clock
      rw [UInt64.le_iff_toNat_le]
      simp only [startingAt, Instant.toNat_shift]
      omega

/-- Sections that are chained forward end as much later as they take if the time line goes on for
long enough. -/
lemma exact_chainFrom (h : ∀ s ∈ ss, 0 ≤ s.duration.toInt)
    (hfits : (clock.toNat : Int) + total ss ≤ Instant.last) :
    ∀ s ∈ chainFrom index clock ss, s.Exact := by
  induction ss generalizing index clock with
  | nil => simp [chainFrom]
  | cons s ss ih =>
    obtain ⟨hs, hss⟩ := List.forall_mem_cons.1 h
    have htotal := total_nonneg hss
    rw [total_cons] at hfits
    -- the time line has room for this section and those after it, so that the shift is exact
    have hend : ((s.startingAt index clock).endsAt.toNat : Int) =
        clock.toNat + s.duration.toInt := by
      simp only [startingAt, Instant.toNat_shift]
      omega
    refine List.forall_mem_cons.2 ⟨?_, ih hss ?_⟩
    · simp only [Exact, hend]
      simp only [startingAt]
      omega
    · rw [hend]
      omega

/-! ### Backward -/

/-- Moving sections backward leaves what does not depend on their ends. -/
lemma map_chainBack {α : Type} {f : Section → α} (hf : ∀ s t, f (endingAt s t) = f s) :
    (chainBack arrival ss).map f = ss.map f := by
  induction ss with
  | nil => rfl
  | cons s ss ih => rw [chainBack, List.map_cons, List.map_cons, hf, ih]

/-- Sections take as long wherever they end. -/
lemma total_chainBack : total (chainBack arrival ss) = total ss :=
  congrArg (List.foldr (· + ·) 0) (map_chainBack fun _ _ => rfl)

/-- Sections that are moved backward are still there. -/
lemma chainBack_ne_nil (h : ss ≠ []) : chainBack arrival ss ≠ [] := by
  cases ss with
  | nil => exact absurd rfl h
  | cons s ss => exact List.cons_ne_nil _ _

/-- The last section ends when it is told to. -/
lemma getLast?_chainBack (arrival : UInt64) (h : ss ≠ []) :
    (chainBack arrival ss).getLast?.map (·.endsAt) = some arrival := by
  induction ss with
  | nil => exact absurd rfl h
  | cons s ss ih =>
    cases ss with
    | nil => rfl
    | cons s' ss =>
      rw [chainBack, chainBack, List.getLast?_cons_cons]
      exact ih (List.cons_ne_nil s' ss)

/-- Sections that are chained backward follow each other. -/
lemma chained_chainBack (h : ∀ s ∈ ss, 0 ≤ s.duration.toInt) : Chained (chainBack arrival ss) := by
  induction ss with
  | nil => exact ⟨.nil, by simp [chainBack]⟩
  | cons s ss ih =>
    obtain ⟨hs, hss⟩ := List.forall_mem_cons.1 h
    obtain ⟨hjoined, hordered⟩ := ih hss
    refine ⟨List.isChain_cons.2 ⟨fun next hnext => ?_, hjoined⟩,
      List.forall_mem_cons.2 ⟨?_, hordered⟩⟩
    · simp only [endingAt, startOf, Option.mem_def.1 hnext, Option.map_some, Option.getD_some]
    · rw [UInt64.le_iff_toNat_le]
      simp only [endingAt, Instant.toNat_shift]
      omega

/-- Some sections begin when the first one does. -/
lemma startOf_cons : startOf (s :: ss) arrival = s.beginsAt := rfl

/-- The sections begin as much earlier as they take, but not before the time line. -/
lemma toNat_startOf_chainBack (arrival : UInt64) (h : ∀ s ∈ ss, 0 ≤ s.duration.toInt) :
    (startOf (chainBack arrival ss) arrival).toNat = ((arrival.toNat : Int) - total ss).toNat := by
  induction ss with
  | nil => simp [chainBack, startOf]
  | cons s ss ih =>
    obtain ⟨hs, hss⟩ := List.forall_mem_cons.1 h
    have hstart := Instant.toNat_le_last (startOf (chainBack arrival ss) arrival)
    simp only [chainBack, startOf_cons, endingAt, Instant.toNat_shift, total_cons]
    rw [ih hss] at hstart ⊢
    -- cut at zero twice is cut once, as no section takes less than no time
    omega

/-- Sections that are chained backward begin as much earlier as they take if the time line began
long enough before. -/
lemma exact_chainBack (h : ∀ s ∈ ss, 0 ≤ s.duration.toInt) (hfits : total ss ≤ arrival.toNat) :
    ∀ s ∈ chainBack arrival ss, s.Exact := by
  induction ss with
  | nil => simp [chainBack]
  | cons s ss ih =>
    obtain ⟨hs, hss⟩ := List.forall_mem_cons.1 h
    have hstart := toNat_startOf_chainBack arrival hss
    rw [total_cons] at hfits
    -- the sections after this one begin late enough for it
    refine List.forall_mem_cons.2 ⟨?_, ih hss ?_⟩
    · have hlast := Instant.toNat_le_last arrival
      have htotal := total_nonneg hss
      simp only [Exact, endingAt, Instant.toNat_shift, hstart]
      omega
    · omega

end Section

/-- A leg becomes a section without a place on the time line. -/
lemma Leg.toSection_plan {path : Path} {costs : BikeShareCosts} {instructions : Bool} {leg : Leg}
    {s : Section} (h : leg.toSection path costs instructions = .ok s.bare) :
    leg.toSection path costs instructions = .ok s.plan := by
  suffices hbare : s.bare = s.plan by rwa [← hbare]
  change s.bare = { s.bare with id := "", beginsAt := 0, endsAt := 0 }
  cases leg with
  | street first last stations =>
    obtain ⟨_, _, _, _, _, -, -, -, -, -, hs⟩ := streetSection_eq_ok h
    rw [hs]
  | station index visit =>
    obtain ⟨m, -, h⟩ := exists_of_bind_eq_ok h
    obtain ⟨c, -, h⟩ := exists_of_bind_eq_ok h
    rw [← Except.ok.inj h]

namespace JourneyQuery

variable {q : JourneyQuery} {path : Path} {costing : Costing} {elevation : Option ElevationSource}
  {ss : List Section} {j : Journey}

/-- The time line has room for the sections. -/
def Fits (q : JourneyQuery) (ss : List Section) : Prop :=
  if q.clockwise then (q.datetime.toNat : Int) + Section.total ss ≤ Instant.last
  else Section.total ss ≤ q.datetime.toNat

/-- The sections follow each other in time, from the requested departure or to the requested
arrival. -/
structure Schedules (q : JourneyQuery) (ss : List Section) : Prop where
  nonempty : ss ≠ []
  chained : Section.Chained ss
  departs : q.clockwise = true → ss.head?.map (·.beginsAt) = some q.datetime
  arrives : q.clockwise = false → ss.getLast?.map (·.endsAt) = some q.datetime
  exact : q.Fits ss → ∀ s ∈ ss, s.Exact

/-- The sections of a journey are chained from its departure or to its arrival. -/
lemma sections_journey : (q.journey path ss).sections =
    if q.clockwise then Section.chain q.datetime ss
    else Section.chainBack q.datetime (Section.chain q.datetime ss) := by
  unfold journey
  split <;> rfl

/-- What heeds neither names nor instants is the same for the sections of the journey. -/
lemma map_journey {α : Type} {f : Section → α}
    (hstart : ∀ s index t, f (Section.startingAt s index t) = f s)
    (hend : ∀ s t, f (Section.endingAt s t) = f s) :
    (q.journey path ss).sections.map f = ss.map f := by
  rw [sections_journey]
  split
  · exact Section.map_chainFrom hstart
  · exact (Section.map_chainBack hend).trans (Section.map_chainFrom hstart)

/-- A journey leaves of its sections whatever does not depend on time and number. -/
lemma filterMap_journey {α : Type} {f : Section → Option α}
    (hstart : ∀ s index t, f (Section.startingAt s index t) = f s)
    (hend : ∀ s t, f (Section.endingAt s t) = f s) :
    (q.journey path ss).sections.filterMap f = ss.filterMap f := by
  have hmap : (q.journey path ss).sections.map f = ss.map f := map_journey hstart hend
  have hsome := congrArg (List.filterMap id) hmap
  rwa [List.filterMap_map, List.filterMap_map, Function.id_comp] at hsome

/-- The journey has the sections that were planned, each in its place on the time line. -/
lemma planned_of_assemble (h : (q.assemble path costing elevation).Leads P (.done j)) :
    ∃ trip, Trip.ofPath costing.mode path = .ok trip ∧
      List.Forall₂
        (fun leg s => leg.toSection path costing.bikeShare q.instructions = .ok s.plan)
        (trip.legs path.maneuvers.length) j.sections := by
  obtain ⟨trip, ss, t, htrip, hss, -, rfl⟩ := of_assemble h
  have hplan : (q.journey path ss).sections.map Section.plan = ss.map Section.plan :=
    map_journey (fun _ _ _ => rfl) (fun _ _ => rfl)
  refine ⟨trip, htrip, ?_⟩
  let R : Leg → Section → Prop := fun leg s =>
    leg.toSection path costing.bikeShare q.instructions = .ok s
  rw [Journey.sections_withTotals, ← List.forall₂_map_right_iff (R := R), hplan,
    List.forall₂_map_right_iff]
  exact hss.imp fun _ _ hs => Leg.toSection_plan hs

/-- The sections of a journey take as long as they were planned. -/
lemma total_journey : Section.total (q.journey path ss).sections = Section.total ss := by
  rw [sections_journey]
  split
  · exact Section.total_chain
  · exact Section.total_chainBack.trans Section.total_chain

/-- Sections are scheduled by their journey. -/
lemma schedules_journey (hne : ss ≠ []) (hnonneg : ∀ s ∈ ss, 0 ≤ s.duration.toInt) :
    q.Schedules (q.journey path ss).sections := by
  rw [sections_journey]
  cases hc : q.clockwise with
  | true =>
    refine ⟨Section.chain_ne_nil _ hne, Section.chained_chainFrom hnonneg,
      fun _ => Section.head?_chainFrom _ _ hne, fun h => ?_, fun hfits => ?_⟩
    · cases hc.symm.trans h
    · simp only [Fits, hc, if_true, Section.total_chain] at hfits
      exact Section.exact_chainFrom hnonneg hfits
  | false =>
    have hne' := Section.chain_ne_nil q.datetime hne
    have hnonneg' := Section.duration_nonneg_chain q.datetime hnonneg
    refine ⟨Section.chainBack_ne_nil hne', Section.chained_chainBack hnonneg', fun h => ?_,
      fun _ => Section.getLast?_chainBack _ hne', fun hfits => ?_⟩
    · cases hc.symm.trans h
    · simp only [Fits, hc, Bool.false_eq_true, if_false, Section.total_chainBack] at hfits
      exact Section.exact_chainBack hnonneg' hfits

/-- A journey that is assembled has sections, which are chained in time and anchored at the
requested instant. -/
theorem schedules_of_assemble (h : (q.assemble path costing elevation).Leads P (.done j)) :
    q.Schedules j.sections := by
  obtain ⟨trip, ss, t, -, hss, -, rfl⟩ := of_assemble h
  refine schedules_journey ?_ ?_
  · rintro rfl
    exact trip.legs_ne_nil _ (List.forall₂_nil_right_iff.1 hss)
  · exact Leg.durations_nonneg hss

/-- A walk to a station, a ride of two minutes that takes another two to begin, and a walk on. -/
def hire : Path where
  maneuvers :=
    [{ start := 0, time := 60, instruction := some "Walk." },
      { graph := .bicycle, action := .rent, start := 1, time := 180, instruction := some "Ride." },
      { action := .putBack, start := 3, time := 100, instruction := some "Walk on." },
      { start := 4, instruction := some "You have arrived." }]
  shape :=
    [⟨.ofNat 0, .ofNat 1⟩, ⟨.ofNat 0, .ofNat 2⟩, ⟨.ofNat 0, .ofNat 3⟩, ⟨.ofNat 0, .ofNat 4⟩,
      ⟨.ofNat 0, .ofNat 5⟩]
  elapsed := 340

/-- A bike is taken within two minutes and returned within one. -/
def hireCosting : Costing :=
  { (default : Costing) with mode := .bss, bikeShare := ⟨120, 0, 60, 0⟩ }

/-- The way with the hired bike ends when it was asked to. -/
theorem schedules_hire :
    ∃ j, (assemble ⟨1000, false, true⟩ hire hireCosting none).Leads (fun _ => True) (.done j) ∧
      j.sections.map (fun s => (s.beginsAt, s.endsAt)) =
        [(660, 720), (720, 840), (840, 900), (900, 960), (960, 1000)] ∧
      Schedules ⟨1000, false, true⟩ j.sections := by
  have hrun : ((assemble ⟨1000, false, true⟩ hire hireCosting none).run
      { caches := .ofCapacities fun _ => 1 }).1.map
        (fun j => j.sections.map fun s => (s.beginsAt, s.endsAt)) =
      .ok [(660, 720), (720, 840), (840, 900), (900, 960), (960, 1000)] := by decide +kernel
  obtain ⟨j, hleads, htimes⟩ := Procedure.exists_leads_of_run hrun
  exact ⟨j, hleads, htimes, schedules_of_assemble hleads⟩

end JourneyQuery

end Wayfinding
