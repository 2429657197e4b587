import Mathlib.Algebra.Ring.Int.Defs
import Wayfinding.Proofs.Journey.Parts
import Wayfinding.Proofs.Journey.Span

/-!
# What a journey announces

A journey announces when it departs, when it arrives and how long it takes. It has these times from
the path as a whole, while its sections have theirs from the maneuvers and from what the stops at
stations cost. The two agree but for one case: the path ends where the bike is returned, and the
last maneuver takes longer, or less long, than the stop alone.

Main definitions: `Leg.seconds`, `Journey.Announces`, `Path.EndsWithStop`.
Main lemmas: `Leg.total_eq`, `Trip.sum_seconds_eq_iff`, `JourneyQuery.announces_iff`.
-/

namespace Wayfinding

open Procedure (Leads)

variable {P : Shared → Prop}

/-- The announced times are those of the sections. -/
structure Journey.Announces (j : Journey) : Prop where
  departs : j.sections.head?.map (·.beginsAt) = some j.departsAt
  arrives : j.sections.getLast?.map (·.endsAt) = some j.arrivesAt
  lasts : j.durations.map (·.total) = some j.duration

/-! ### The time of the legs -/

namespace Path

variable {path : Path} {i : Nat} {m : Maneuver}

/-- What the path does at a station at the start of a maneuver. -/
def actionAt (path : Path) (i : Nat) : StationAction :=
  (path.maneuvers[i]?.map (·.action)).getD .none

/-- What is done at a maneuver is its mark. -/
lemma actionAt_eq (hm : path.maneuvers[i]? = some m) : path.actionAt i = m.action := by
  rw [actionAt, hm]
  rfl

/-- A bike that is returned at the last maneuver is all that this maneuver takes time for. -/
def EndsWithStop (path : Path) (costs : BikeShareCosts) : Prop :=
  ∀ p m, Trip.find? path.maneuvers .putBack = some p → p + 1 = path.maneuvers.length →
    path.maneuvers[p]? = some m → m.time = costs.returnDuration

end Path

namespace Leg

variable {path : Path} {costs : BikeShareCosts} {instructions : Bool} {leg : Leg}
  {legs : List Leg} {s : Section} {ss : List Section}

/-- Seconds of a leg; one on the streets takes what its maneuvers take, less what was counted for
the stop before it. -/
def seconds (path : Path) (costs : BikeShareCosts) : Leg → Int
  | street first last _ =>
    Path.seconds (path.part first last) - stationCost costs (path.actionAt first)
  | station _ visit => stopTime costs visit

/-- The time of a leg is neither below zero nor above what a message can carry. -/
def Carried (path : Path) (costs : BikeShareCosts) (leg : Leg) : Prop :=
  0 ≤ leg.seconds path costs ∧ leg.seconds path costs ≤ 2147483647

instance : Decidable (leg.Carried path costs) := inferInstanceAs (Decidable (_ ∧ _))

/-- A section lasts as long as its leg, within what a message can carry. -/
lemma duration_eq_cut (h : leg.toSection path costs instructions = .ok s) :
    s.duration = cut (leg.seconds path costs) := by
  cases leg with
  | street first last stations =>
    obtain ⟨start, _, _, _, _, hstart, -, -, -, -, rfl⟩ := streetSection_eq_ok h
    rw [seconds, Path.actionAt_eq hstart]
    rfl
  | station index visit =>
    obtain ⟨-, hduration, -⟩ := stationSection_eq_ok h
    exact hduration

/-- A section lasts as long as its leg takes, if a message can carry that. -/
lemma duration_eq (h : leg.toSection path costs instructions = .ok s)
    (hc : leg.Carried path costs) : s.duration.toInt = leg.seconds path costs := by
  obtain ⟨h0, hmax⟩ := hc
  rw [duration_eq_cut h, toInt_cut]
  omega

/-- Sections together last as long as their legs take. -/
lemma total_eq
    (h : List.Forall₂ (fun leg s => leg.toSection path costs instructions = .ok s.bare) legs ss)
    (hc : ∀ leg ∈ legs, leg.Carried path costs) :
    Section.total ss = (legs.map (seconds path costs)).sum := by
  induction h with
  | nil => rfl
  | @cons leg s legs ss hs _ ih =>
    obtain ⟨hleg, hlegs⟩ := List.forall_mem_cons.1 hc
    have hd : s.bare.duration.toInt = leg.seconds path costs := duration_eq hs hleg
    rw [Section.total_cons, List.map_cons, List.sum_cons, ih hlegs, ← hd]
    rfl

end Leg

namespace Trip

variable {path : Path} {costs : BikeShareCosts} {trip : Trip} {r p : Nat}

/-- A path has no marks, or a bike is taken before it is put back. -/
lemma of_classify {maneuvers : List Maneuver} (h : classify maneuvers = .ok trip) :
    (trip = .whole ∧ find? maneuvers .rent = none ∧ find? maneuvers .putBack = none) ∨
      ∃ r p, trip = .bikeShare r p ∧ find? maneuvers .rent = some r ∧
        find? maneuvers .putBack = some p ∧ r < p := by
  unfold classify at h
  split at h
  · next hrent hputBack =>
    cases h
    exact .inl ⟨rfl, hrent, hputBack⟩
  · next r p hrent hputBack =>
    split at h
    · next hlt =>
      cases h
      exact .inr ⟨r, p, rfl, hrent, hputBack, hlt⟩
    · cases h
  · cases h
  · cases h

/-- Before the first station there is nothing to do at a station. -/
lemma actionAt_zero (hrent : ∀ m, path.maneuvers[0]? = some m → m.action ≠ .rent)
    (hputBack : ∀ m, path.maneuvers[0]? = some m → m.action ≠ .putBack) :
    path.actionAt 0 = .none := by
  unfold Path.actionAt
  cases hm : path.maneuvers[0]? with
  | none => rfl
  | some m =>
    cases haction : m.action with
    | none => simp only [Option.map_some, haction, Option.getD_some]
    | rent => exact absurd haction (hrent m hm)
    | putBack => exact absurd haction (hputBack m hm)

/-- Without marks, the one leg takes as long as the maneuvers. -/
lemma sum_seconds_whole (hrent : find? path.maneuvers .rent = none)
    (hputBack : find? path.maneuvers .putBack = none) :
    ((whole.legs path.maneuvers.length).map (Leg.seconds path costs)).sum =
      Path.seconds path.maneuvers := by
  have hnone (action : StationAction) (h : find? path.maneuvers action = none) :
      ∀ m, path.maneuvers[0]? = some m → m.action ≠ action := by
    intro m hm
    have hall := List.findIdx?_eq_none_iff.1 h m (List.mem_of_getElem? hm)
    exact of_decide_eq_false hall
  have haction := actionAt_zero (hnone .rent hrent) (hnone .putBack hputBack)
  simp only [legs, List.map_cons, List.map_nil, List.sum_cons, List.sum_nil, Leg.seconds, haction,
    Leg.stationCost, Path.part_zero_length]
  omega

/-- The legs of a bike-share trip take as long as the path up to the return of the bike, and then
either for the rest of the path or, when it ends there, for the stop alone. -/
lemma sum_seconds_bikeShare (hrent : find? path.maneuvers .rent = some r)
    (hputBack : find? path.maneuvers .putBack = some p) (hlt : r < p) :
    (((bikeShare r p).legs path.maneuvers.length).map (Leg.seconds path costs)).sum =
      Path.seconds (path.part 0 p) +
        if p + 1 < path.maneuvers.length then
          (Path.seconds (path.part p path.maneuvers.length) : Int)
        else costs.returnDuration := by
  obtain ⟨⟨mr, hmr, hmrAction⟩, hnoRent⟩ := of_find? hrent
  obtain ⟨⟨mp, hmp, hmpAction⟩, hnoPutBack⟩ := of_find? hputBack
  have hactionR : path.actionAt r = .rent := (Path.actionAt_eq hmr).trans hmrAction
  have hactionP : path.actionAt p = .putBack := (Path.actionAt_eq hmp).trans hmpAction
  have hwalk : ((if 0 < r then [Leg.street 0 r true] else []).map (Leg.seconds path costs)).sum =
      Path.seconds (path.part 0 r) := by
    split
    · next hr =>
      have hstart : path.actionAt 0 = .none :=
        actionAt_zero (hnoRent 0 hr) (hnoPutBack 0 (hr.trans hlt))
      simp only [List.map_cons, List.map_nil, List.sum_cons, List.sum_nil, Leg.seconds, hstart,
        Leg.stationCost]
      omega
    · next hr =>
      obtain rfl : r = 0 := Nat.eq_zero_of_not_pos hr
      rfl
  have hparts : Path.seconds (path.part 0 r) + Path.seconds (path.part r p) =
      Path.seconds (path.part 0 p) := Path.seconds_part r.zero_le hlt.le
  rw [legs, List.map_append, List.map_append, List.sum_append, List.sum_append, hwalk]
  simp only [List.map_cons, List.map_nil, List.sum_cons, List.sum_nil, Leg.seconds, hactionR,
    Leg.stationCost, Leg.stopTime]
  split
  · simp only [List.map_cons, List.map_nil, List.sum_cons, List.sum_nil, Leg.seconds, hactionP,
      Leg.stationCost]
    omega
  · simp only [List.map_nil, List.sum_nil]
    omega

/-- The legs of a trip take as long as the path, unless it ends with more, or less, than a stop. -/
lemma sum_seconds_eq_iff (h : classify path.maneuvers = .ok trip) :
    ((trip.legs path.maneuvers.length).map (Leg.seconds path costs)).sum =
      Path.seconds path.maneuvers ↔ path.EndsWithStop costs := by
  obtain ⟨rfl, hrent, hputBack⟩ | ⟨r, p, rfl, hrent, hputBack, hlt⟩ := of_classify h
  · refine iff_of_true (sum_seconds_whole hrent hputBack) fun p m hp => ?_
    cases hputBack.symm.trans hp
  · obtain ⟨⟨mp, hmp, -⟩, -⟩ := of_find? hputBack
    obtain ⟨hplt, hget⟩ := List.getElem?_eq_some_iff.1 hmp
    have hparts : Path.seconds (path.part 0 p) +
        Path.seconds (path.part p path.maneuvers.length) = Path.seconds path.maneuvers := by
      rw [Path.seconds_part p.zero_le hplt.le, Path.part_zero_length]
    rw [sum_seconds_bikeShare hrent hputBack hlt]
    split
    · next hgoesOn =>
      refine iff_of_true (by omega) fun p' m hp' hend => ?_
      cases hputBack.symm.trans hp'
      omega
    · next hend =>
      -- the return of the bike is the last maneuver, whose time the stop takes the place of
      have hlast : path.part p path.maneuvers.length = [mp] := by
        rw [Path.part, List.take_length, List.drop_eq_getElem_cons hplt, hget,
          List.drop_eq_nil_of_le (by omega)]
      rw [hlast] at hparts
      have hseconds : Path.seconds [mp] = mp.time := rfl
      constructor
      · intro hsum p' m hp' _ hm
        cases hputBack.symm.trans hp'
        cases hmp.symm.trans hm
        omega
      · intro hstop
        have htime := hstop p mp hputBack (by omega) hmp
        omega

end Trip

namespace JourneyQuery

variable {q : JourneyQuery} {path : Path} {costing : Costing} {elevation : Option ElevationSource}
  {ss : List Section} {j : Journey}

/-- A message can carry a duration, and the time line has room for it from the requested departure
on, or before the requested arrival. -/
def HasRoom (q : JourneyQuery) (d : Int) : Prop :=
  d ≤ 2147483647 ∧
    if q.clockwise then (q.datetime.toNat : Int) + d ≤ Instant.last else d ≤ q.datetime.toNat

instance (d : Int) : Decidable (q.HasRoom d) := inferInstanceAs (Decidable (_ ∧ _))

/-- A journey announces how long the path takes, cut to what a message can carry. -/
lemma duration_journey : (q.journey path ss).duration = Leg.cut path.elapsed := by
  unfold journey
  split <;> rfl

/-- A journey departs when it was asked to, or as much before its arrival. -/
lemma departsAt_journey : (q.journey path ss).departsAt =
    if q.clockwise then q.datetime
    else Instant.shift q.datetime (-(Leg.cut path.elapsed).toInt) := by
  unfold journey
  split <;> rfl

/-- A journey arrives when it was asked to, or as much after its departure. -/
lemma arrivesAt_journey : (q.journey path ss).arrivesAt =
    if q.clockwise then Instant.shift q.datetime path.elapsed else q.datetime := by
  unfold journey
  split <;> rfl

/-- As much time as there is room for is not cut. -/
lemma HasRoom.le_room {d : Int} (h : q.HasRoom d) : d ≤ q.room := by
  obtain ⟨-, hroom⟩ := h
  have hlast := Instant.toNat_le_last q.datetime
  unfold room
  split
  · next hc =>
    rw [if_pos hc] at hroom
    omega
  · next hc => rwa [if_neg hc] at hroom

/-- The total duration that is announced is that of the sections, when there is room for them. -/
lemma HasRoom.toInt_total {t : Totals} (hroom : q.HasRoom (Section.total ss)) (hne : ss ≠ [])
    (hnonneg : ∀ s ∈ ss, 0 ≤ s.duration.toInt) (h : (q.journey path ss).totals = .ok t) :
    t.durations.total.toInt = Section.total ss := by
  have htotal := Section.total_nonneg hnonneg
  have hle := hroom.le_room
  obtain ⟨hmax, -⟩ := hroom
  have hfew : Section.total ss < Instant.middle := by
    unfold Instant.middle
    omega
  rw [total_of_totals hne hnonneg hfew h, Leg.toInt_cut]
  omega

/-- The announced times are those of the sections when these take as long as the path. -/
lemma announces_journey {t : Totals} (hne : ss ≠ []) (hnonneg : ∀ s ∈ ss, 0 ≤ s.duration.toInt)
    (hpath : q.HasRoom path.elapsed) (hsections : q.HasRoom (Section.total ss))
    (ht : (q.journey path ss).totals = .ok t) :
    ((q.journey path ss).withTotals t).Announces ↔ Section.total ss = path.elapsed := by
  obtain ⟨first, last, hfirst, hlast, hbetween, hanchor⟩ := q.ends_journey path hne hnonneg
  have hspan := hsections.toInt_total hne hnonneg ht
  have htotal := Section.total_nonneg hnonneg
  have hle := hsections.le_room
  obtain ⟨hpathMax, hpathRoom⟩ := hpath
  have hduration : (q.journey path ss).duration.toInt = path.elapsed := by
    rw [duration_journey, Leg.toInt_cut]
    omega
  have hlastInstant := Instant.toNat_le_last last.endsAt
  constructor
  · intro hannounces
    have h : t.durations.total = (q.journey path ss).duration := Option.some.inj hannounces.lasts
    rw [← hspan, h, hduration]
  · intro helapsed
    refine ⟨?_, ?_, ?_⟩
    · change (q.journey path ss).sections.head?.map (·.beginsAt) =
        some (q.journey path ss).departsAt
      rw [hfirst, Option.map_some, Option.some_inj, departsAt_journey]
      split
      · next hc => rwa [if_pos hc] at hanchor
      · next hc =>
        rw [if_neg hc] at hanchor
        rw [← UInt64.toNat_inj, Instant.toNat_shift, Leg.toInt_cut, ← hanchor]
        omega
    · change (q.journey path ss).sections.getLast?.map (·.endsAt) =
        some (q.journey path ss).arrivesAt
      rw [hlast, Option.map_some, Option.some_inj, arrivesAt_journey]
      split
      · next hc =>
        rw [if_pos hc] at hanchor
        rw [← UInt64.toNat_inj, Instant.toNat_shift, ← hanchor]
        omega
      · next hc => rwa [if_neg hc] at hanchor
    · change some t.durations.total = some (q.journey path ss).duration
      rw [Option.some_inj, ← Int32.toInt_inj, hspan, hduration, helapsed]

/-- In bike-share mode, let a path take as long as its maneuvers, let each leg last at least as long
as the stop that was counted on it, and let the time line have room for the journey. Then the
announced times are those of the sections if and only if the path does not end with the return of
the bike, or its last maneuver takes as long as this stop. -/
theorem announces_iff {trip : Trip} (hmode : costing.mode = .bss)
    (htrip : Trip.classify path.maneuvers = .ok trip)
    (hlegs : ∀ leg ∈ trip.legs path.maneuvers.length, leg.Carried path costing.bikeShare)
    (helapsed : path.elapsed = Path.seconds path.maneuvers)
    (hroom : ∀ d ∈ [(path.elapsed : Int), Section.total j.sections], q.HasRoom d)
    (h : (q.assemble path costing elevation).Leads P (.done j)) :
    j.Announces ↔ path.EndsWithStop costing.bikeShare := by
  obtain ⟨trip', ss, t, htrip', hss, ht, rfl⟩ := of_assemble h
  rw [hmode] at htrip'
  cases htrip.symm.trans htrip'
  rw [Journey.sections_withTotals, total_journey] at hroom
  obtain ⟨hpath, hsections, -⟩ : q.HasRoom path.elapsed ∧ q.HasRoom (Section.total ss) ∧ True := by
    simpa using hroom
  have hne : ss ≠ [] := by
    rintro rfl
    exact trip.legs_ne_nil _ (List.forall₂_nil_right_iff.1 hss)
  rw [announces_journey hne (Leg.durations_nonneg hss) hpath hsections ht, Leg.total_eq hss hlegs,
    helapsed]
  exact Trip.sum_seconds_eq_iff htrip

/-- The way with the hired bike goes on after its return. -/
theorem announces_hire :
    ∃ j, (assemble ⟨1000, false, true⟩ hire hireCosting none).Leads (fun _ => True) (.done j) ∧
      (j.departsAt, j.arrivesAt, j.duration) = (660, 1000, 340) ∧
      hire.EndsWithStop hireCosting.bikeShare ∧ j.Announces := by
  have hrun : ((assemble ⟨1000, false, true⟩ hire hireCosting none).run
      { caches := .ofCapacities fun _ => 1 }).1.map
        (fun j => ((j.departsAt, j.arrivesAt, j.duration), Section.total j.sections)) =
      .ok ((660, 1000, 340), 340) := by decide +kernel
  obtain ⟨j, hleads, hvalues⟩ := Procedure.exists_leads_of_run hrun
  obtain ⟨htimes, htotal⟩ := Prod.mk.inj hvalues
  have hgoesOn : hire.EndsWithStop hireCosting.bikeShare := by
    intro p m hp hend _
    have hreturned : Trip.find? hire.maneuvers .putBack = some 2 := by decide
    cases hreturned.symm.trans hp
    cases hend
  have hroom : ∀ d ∈ [(hire.elapsed : Int), Section.total j.sections],
      (⟨1000, false, true⟩ : JourneyQuery).HasRoom d := by
    rw [htotal]
    decide
  have htrip : Trip.classify hire.maneuvers = .ok (.bikeShare 1 2) := by decide
  exact ⟨j, hleads, htimes, hgoesOn,
    (announces_iff rfl htrip (by decide) (by decide) hroom hleads).2 hgoesOn⟩

/-- The hired bike, but the path ends with the maneuver that returns it: after a minute for the
stop this goes on for forty seconds. -/
def parked : Path := { hire with maneuvers := hire.maneuvers.take 3 }

/-- When the bike is put back at the end of the path, the time that this takes is not announced. -/
theorem not_announces_parked :
    Trip.classify parked.maneuvers = .ok (.bikeShare 1 2) ∧
      (∀ leg ∈ (Trip.bikeShare 1 2).legs parked.maneuvers.length,
        leg.Carried parked hireCosting.bikeShare) ∧
      parked.elapsed = Path.seconds parked.maneuvers ∧
      ∃ j, (assemble ⟨1000, true, true⟩ parked hireCosting none).Leads (fun _ => True) (.done j) ∧
        (∀ d ∈ [(parked.elapsed : Int), Section.total j.sections],
          (⟨1000, true, true⟩ : JourneyQuery).HasRoom d) ∧
        (j.departsAt, j.arrivesAt, j.duration) = (1000, 1340, 340) ∧
        j.sections.map (fun s => (s.beginsAt, s.endsAt)) =
          [(1000, 1060), (1060, 1180), (1180, 1240), (1240, 1300)] ∧
        ¬ j.Announces := by
  have hrun : ((assemble ⟨1000, true, true⟩ parked hireCosting none).run
      { caches := .ofCapacities fun _ => 1 }).1.map
        (fun j => (Section.total j.sections, (j.departsAt, j.arrivesAt, j.duration),
          j.sections.map fun s => (s.beginsAt, s.endsAt))) =
      .ok (300, (1000, 1340, 340),
        [(1000, 1060), (1060, 1180), (1180, 1240), (1240, 1300)]) := by decide +kernel
  obtain ⟨j, hleads, hvalues⟩ := Procedure.exists_leads_of_run hrun
  obtain ⟨htotal, htimes⟩ := Prod.mk.inj hvalues
  obtain ⟨hannounced, hsections⟩ := Prod.mk.inj htimes
  refine ⟨by decide, by decide, by decide, j, hleads, by rw [htotal]; decide, hannounced, hsections,
    fun hannounces => ?_⟩
  have hends : (j.sections.map fun s => (s.beginsAt, s.endsAt)).getLast?.map (·.2) =
      some j.arrivesAt := by
    rw [List.getLast?_map, Option.map_map]
    exact hannounces.arrives
  have harrivesAt : j.arrivesAt = 1340 := congrArg (·.2.1) hannounced
  rw [hsections, harrivesAt] at hends
  exact absurd hends (by decide)

end JourneyQuery

end Wayfinding
