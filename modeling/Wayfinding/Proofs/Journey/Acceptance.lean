import Wayfinding.Proofs.Journey.Overflow
import Wayfinding.Proofs.Journey.Range

/-!
# Which marked paths become journeys

A bike-share path may mark where a bike is taken and where it is returned. A journey along it heeds
the first mark of either kind alone: these must come in this order, or there must be none. So a path
on which a mark is repeated is accepted too, with a section on the streets on which a bike is taken
or returned at a maneuver where the journey makes no stop.

Main definitions: `Path.Regular`, `Path.Paired`, `Path.Repeats`, `Path.Overlooked`.
Main lemmas: `Path.regular_iff`, `Trip.exists_overlooked_iff`, `JourneyQuery.accepts_iff`.
-/

namespace Wayfinding

namespace Path

variable {path : Path} {action : StationAction} {i r p : Nat}

/-- The first maneuver with a mark. -/
def FirstMarked (path : Path) (action : StationAction) (i : Nat) : Prop :=
  path.actionAt i = action ∧ ∀ k < i, path.actionAt k ≠ action

/-- No maneuver is marked. -/
def Plain (path : Path) : Prop := ∀ i, path.actionAt i = .none

/-- At most one bike is taken, and returned later: no maneuver is marked, or one where the bike is
taken and a later one where it is returned. -/
def Regular (path : Path) : Prop :=
  path.Plain ∨ ∃ r p, r < p ∧
    ∀ i, (path.actionAt i = .rent ↔ i = r) ∧ (path.actionAt i = .putBack ↔ i = p)

/-- No maneuver is marked, or a bike is first taken before one is first returned. -/
def Paired (path : Path) : Prop :=
  path.Plain ∨ ∃ r p, r < p ∧ path.FirstMarked .rent r ∧ path.FirstMarked .putBack p

/-- Two maneuvers have the same mark. -/
def Repeats (path : Path) : Prop :=
  ∃ i k, i ≠ k ∧ path.actionAt i = path.actionAt k ∧ path.actionAt i ≠ .none

/-- A mark is within the path. -/
lemma lt_length_of_actionAt (h : path.actionAt i ≠ .none) : i < path.maneuvers.length := by
  by_contra hle
  rw [actionAt, List.getElem?_eq_none (Nat.not_lt.1 hle)] at h
  exact h rfl

/-- Of marks in order nothing is missing for one bike but that none is repeated. -/
lemma regular_iff : path.Regular ↔ path.Paired ∧ ¬ path.Repeats := by
  constructor
  · rintro (hnone | ⟨r, p, hlt, hmarks⟩)
    · exact ⟨.inl hnone, fun ⟨i, _, _, _, hmark⟩ => hmark (hnone i)⟩
    refine ⟨.inr ⟨r, p, hlt, ⟨(hmarks r).1.2 rfl, fun k hk hmark => ?_⟩,
      ⟨(hmarks p).2.2 rfl, fun k hk hmark => ?_⟩⟩, ?_⟩
    · exact hk.ne ((hmarks k).1.1 hmark)
    · exact hk.ne ((hmarks k).2.1 hmark)
    · rintro ⟨i, k, hne, hsame, hmark⟩
      cases haction : path.actionAt i with
      | none => exact hmark haction
      | rent =>
        exact hne (((hmarks i).1.1 haction).trans ((hmarks k).1.1 (hsame ▸ haction)).symm)
      | putBack =>
        exact hne (((hmarks i).2.1 haction).trans ((hmarks k).2.1 (hsame ▸ haction)).symm)
  · rintro ⟨hnone | ⟨r, p, hlt, ⟨hr, -⟩, hp, -⟩, honce⟩
    · exact .inl hnone
    -- a second mark of a kind would repeat the first one
    have hunique {action : StationAction} {i k : Nat} (hi : path.actionAt i = action)
        (hmark : action ≠ .none) : path.actionAt k = action ↔ k = i := by
      refine ⟨fun hk => ?_, fun hk => hk ▸ hi⟩
      by_contra hne
      exact honce ⟨k, i, hne, hk.trans hi.symm, hk ▸ hmark⟩
    exact .inr ⟨r, p, hlt, fun i => ⟨hunique hr (by decide), hunique hp (by decide)⟩⟩

end Path

/-- Some of the legs goes along a maneuver with a mark, and none of them stops there. -/
def Path.Overlooked (path : Path) (legs : List Leg) (i : Nat) : Prop :=
  path.actionAt i ≠ .none ∧
    (∃ first last stations, Leg.street first last stations ∈ legs ∧ first ≤ i ∧ i < last) ∧
    ∀ visit, Leg.station i visit ∉ legs

namespace Trip

variable {path : Path} {action : StationAction} {trip : Trip} {refusal : Refusal} {i r p : Nat}

/-- A mark is found where it is first. -/
lemma find?_eq_some_iff (hmark : action ≠ .none) :
    find? path.maneuvers action = some i ↔ path.FirstMarked action i := by
  have hat {k : Nat} (hk : k < path.maneuvers.length) :
      path.actionAt k = path.maneuvers[k].action :=
    Path.actionAt_eq (List.getElem?_eq_getElem hk)
  rw [find?, List.findIdx?_eq_some_iff_getElem]
  constructor
  · rintro ⟨hi, haction, hfirst⟩
    refine ⟨(hat hi).trans (of_decide_eq_true haction), fun k hk hmarked => ?_⟩
    exact hfirst k hk (decide_eq_true ((hat (hk.trans hi)).symm.trans hmarked))
  · rintro ⟨haction, hfirst⟩
    have hi : i < path.maneuvers.length := Path.lt_length_of_actionAt (haction ▸ hmark)
    refine ⟨hi, decide_eq_true ((hat hi).symm.trans haction), fun k hk hmarked => ?_⟩
    exact hfirst k hk ((hat (hk.trans hi)).trans (of_decide_eq_true hmarked))

/-- A mark that is not found is nowhere. -/
lemma find?_eq_none_iff (hmark : action ≠ .none) :
    find? path.maneuvers action = none ↔ ∀ i, path.actionAt i ≠ action := by
  rw [find?, List.findIdx?_eq_none_iff]
  constructor
  · intro hnone i hi
    have hlt : i < path.maneuvers.length := Path.lt_length_of_actionAt (hi ▸ hmark)
    have haction := hnone _ (List.getElem_mem hlt)
    rw [← Path.actionAt_eq (List.getElem?_eq_getElem hlt)] at haction
    exact of_decide_eq_false haction hi
  · intro hnone m hm
    obtain ⟨i, hi⟩ := List.getElem?_of_mem hm
    exact decide_eq_false (Path.actionAt_eq hi ▸ hnone i)

/-- A path on which no mark is found is plain. -/
lemma plain_of_find? (hrent : find? path.maneuvers .rent = none)
    (hputBack : find? path.maneuvers .putBack = none) : path.Plain := by
  rw [find?_eq_none_iff (by decide)] at hrent hputBack
  intro i
  cases haction : path.actionAt i with
  | none => rfl
  | rent => exact absurd haction (hrent i)
  | putBack => exact absurd haction (hputBack i)

/-- A path is accepted as a bike-share trip when its first marks are in order. -/
lemma exists_classify_iff : (∃ trip, classify path.maneuvers = .ok trip) ↔ path.Paired := by
  constructor
  · rintro ⟨trip, htrip⟩
    obtain ⟨-, hrent, hputBack⟩ | ⟨r, p, -, hrent, hputBack, hlt⟩ := of_classify htrip
    · exact .inl (plain_of_find? hrent hputBack)
    · rw [find?_eq_some_iff (by decide)] at hrent hputBack
      exact .inr ⟨r, p, hlt, hrent, hputBack⟩
  · rintro (hnone | ⟨r, p, hlt, hrent, hputBack⟩)
    · have hfind {action : StationAction} (hmark : action ≠ .none) :
          find? path.maneuvers action = none :=
        (find?_eq_none_iff hmark).2 fun i => hnone i ▸ hmark.symm
      exact ⟨whole, by rw [classify, hfind (by decide), hfind (by decide)]⟩
    · rw [← find?_eq_some_iff (by decide)] at hrent hputBack
      refine ⟨bikeShare r p, ?_⟩
      rw [classify, hrent, hputBack]
      exact if_pos hlt

/-- A path is refused for marks that do not match. -/
lemma inconsistent_of_classify {maneuvers : List Maneuver}
    (h : classify maneuvers = .error refusal) :
    ∃ found missing, refusal = .inconsistentBikeShare found missing := by
  unfold classify at h
  split at h
  · cases h
  · split at h
    · cases h
    · cases h
      exact ⟨_, _, rfl⟩
  · cases h
    exact ⟨_, _, rfl⟩
  · cases h
    exact ⟨_, _, rfl⟩

/-- The legs of a bike-share trip go along all of its maneuvers, and stop at two of them. -/
lemma overlooked_iff (hlt : r < p) :
    path.Overlooked ((bikeShare r p).legs path.maneuvers.length) i ↔
      path.actionAt i ≠ .none ∧ i ≠ r ∧ i ≠ p := by
  simp only [Path.Overlooked, mem_legs_bikeShare]
  constructor
  · rintro ⟨hmark, -, hstop⟩
    refine ⟨hmark, ?_, ?_⟩
    · rintro rfl
      exact hstop .rent (.inr (.inl rfl))
    · rintro rfl
      exact hstop .putBack (.inr (.inr (.inr (.inl rfl))))
  · rintro ⟨hmark, hr, hp⟩
    refine ⟨hmark, ?_, fun visit hstop => ?_⟩
    · have hi := Path.lt_length_of_actionAt hmark
      obtain hbefore | hafter := hr.lt_or_gt
      · exact ⟨0, r, true, .inl ⟨Nat.zero_lt_of_lt hbefore, rfl⟩, i.zero_le, hbefore⟩
      obtain hbetween | hlater := hp.lt_or_gt
      · exact ⟨r, p, true, .inr (.inr (.inl rfl)), hafter.le, hbetween⟩
      · exact ⟨p, _, true, .inr (.inr (.inr (.inr ⟨by omega, rfl⟩))), hlater.le, hi⟩
    · obtain ⟨-, h⟩ | h | h | h | ⟨-, h⟩ := hstop
      · cases h
      · cases h
        exact hr rfl
      · cases h
      · cases h
        exact hp rfl
      · cases h

/-- What is overlooked is a mark that is repeated. -/
lemma exists_overlooked_iff (h : classify path.maneuvers = .ok trip) :
    (∃ i, path.Overlooked (trip.legs path.maneuvers.length) i) ↔ path.Repeats := by
  obtain ⟨rfl, hrent, hputBack⟩ | ⟨r, p, rfl, hrent, hputBack, hlt⟩ := of_classify h
  · have hnone := plain_of_find? hrent hputBack
    exact iff_of_false (fun ⟨i, hmark, _⟩ => hmark (hnone i))
      fun ⟨i, _, _, _, hmark⟩ => hmark (hnone i)
  · obtain ⟨hr, -⟩ := (find?_eq_some_iff (by decide)).1 hrent
    obtain ⟨hp, -⟩ := (find?_eq_some_iff (by decide)).1 hputBack
    simp only [overlooked_iff hlt]
    constructor
    · rintro ⟨i, hmark, hir, hip⟩
      cases haction : path.actionAt i with
      | none => exact absurd haction hmark
      | rent => exact ⟨i, r, hir, haction.trans hr.symm, hmark⟩
      | putBack => exact ⟨i, p, hip, haction.trans hp.symm, hmark⟩
    · rintro ⟨i, k, hne, hsame, hmark⟩
      -- at most one of the two is a stop, as the stops have different marks
      by_cases hi : i = r ∨ i = p
      · refine ⟨k, hsame ▸ hmark, ?_, ?_⟩
        · rintro rfl
          obtain rfl | rfl := hi
          · exact hne rfl
          · cases hp.symm.trans (hsame.trans hr)
        · rintro rfl
          obtain rfl | rfl := hi
          · cases hr.symm.trans (hsame.trans hp)
          · exact hne rfl
      · exact ⟨i, hmark, fun h => hi (.inl h), fun h => hi (.inr h)⟩

end Trip

namespace JourneyQuery

variable {q : JourneyQuery} {path : Path} {costing : Costing} {costs : BikeShareCosts}
  {elevation : Option ElevationSource} {trip : Trip} {refusal : Refusal}

/-- A path of which not all legs become sections fails to become a journey outside its shape. -/
lemma outside_of_plan_eq_error {halt : Halt} (hne : path.maneuvers ≠ [])
    (htrip : Trip.ofPath costing.mode path = .ok trip) (h : q.plan path costing = .error halt) :
    halt.OutsideShape := by
  obtain ⟨leg, hleg, hhalt⟩ := exists_of_plan_eq_error htrip h
  exact Leg.outside_of_toSection (Trip.within_legs hne htrip leg hleg) hhalt

/-- No journey is assembled along such a path. -/
lemma run_assemble_of_error (htrip : Trip.ofPath costing.mode path = .error refusal) (s : Shared) :
    ((q.assemble path costing elevation).run s).1 = .error (.refused refusal) := by
  unfold assemble
  rw [htrip]
  rfl

/-- A bike-share path is reported as inconsistent if and only if its first marks are not in order.
This leaves out the paths on which marks are repeated: they are accepted, and then a bike is taken
or returned on a section on the streets, at a maneuver where the journey makes no stop. -/
theorem accepts_iff (hmode : costing.mode = .bss) (hne : path.maneuvers ≠ []) (shared : Shared) :
    ((∃ found missing, ((q.assemble path costing elevation).run shared).1 =
        .error (.refused (.inconsistentBikeShare found missing))) ↔ ¬ path.Paired) ∧
      (path.Regular ↔ path.Paired ∧ ¬ path.Repeats) ∧
      ∀ j, ((q.assemble path costing elevation).run shared).1 = .ok j →
        ∃ trip, Trip.classify path.maneuvers = .ok trip ∧
          List.Forall₂
            (fun leg s => leg.toSection path costing.bikeShare q.instructions = .ok s.plan)
            (trip.legs path.maneuvers.length) j.sections ∧
          ((∃ i, path.Overlooked (trip.legs path.maneuvers.length) i) ↔ path.Repeats) := by
  have hclassify : Trip.ofPath costing.mode path = Trip.classify path.maneuvers := by
    rw [hmode]
    rfl
  refine ⟨?_, Path.regular_iff, fun j hj => ?_⟩
  · rw [← Trip.exists_classify_iff]
    cases htrip : Trip.classify path.maneuvers with
    | error refusal =>
      obtain ⟨found, missing, rfl⟩ := Trip.inconsistent_of_classify htrip
      exact iff_of_true ⟨found, missing, run_assemble_of_error (hclassify.trans htrip) shared⟩
        fun ⟨_, h⟩ => nomatch h
    | ok trip =>
      refine iff_of_false ?_ fun h => h ⟨trip, rfl⟩
      rintro ⟨found, missing, herror⟩
      have hpath := hclassify.trans htrip
      obtain ⟨halt, hplan, hrun⟩ | ⟨ss, -, ⟨j, -, hrun⟩ | ⟨crash, -, hrun⟩⟩ :=
        q.run_assemble_cases path costing elevation shared
      · obtain ⟨_, _, rfl⟩ := outside_of_plan_eq_error hne hpath hplan
        cases hrun.symm.trans herror
      · cases hrun.symm.trans herror
      · cases hrun.symm.trans herror
  · obtain ⟨trip, htrip, hsections⟩ :=
      planned_of_assemble (Procedure.leads_of_run (Prod.ext hj rfl))
    rw [hclassify] at htrip
    exact ⟨trip, htrip, hsections, Trip.exists_overlooked_iff htrip⟩

/-- The hired bike is taken once and returned once, and the journey stops at both stations. -/
theorem accepts_hire :
    ∃ j, ((assemble ⟨1000, true, true⟩ hire hireCosting none).run
        { caches := .ofCapacities fun _ => 1 }).1 = .ok j ∧
      j.sections.length = 5 ∧ hire.Regular ∧
      ∀ i, ¬ hire.Overlooked ((Trip.bikeShare 1 2).legs 4) i := by
  have hrun : ((assemble ⟨1000, true, true⟩ hire hireCosting none).run
      { caches := .ofCapacities fun _ => 1 }).1.map (fun j => j.sections.length) = .ok 5 := by
    decide +kernel
  obtain ⟨j, hj, hlength⟩ := exists_of_map_eq_ok hrun
  have hne : hire.maneuvers ≠ [] := List.cons_ne_nil _ _
  have hmode : hireCosting.mode = .bss := rfl
  obtain ⟨hreported, hregular, haccepted⟩ :=
    accepts_iff hmode hne { caches := .ofCapacities fun _ => 1 }
  obtain ⟨trip, htrip, -, hoverlooked⟩ := haccepted j hj
  have hbike : Trip.classify hire.maneuvers = .ok (.bikeShare 1 2) := by decide
  cases hbike.symm.trans htrip
  have hstops : ∀ i < 4, hire.actionAt i ≠ .none → i = 1 ∨ i = 2 := by decide
  have hnone (i : Nat) : ¬ hire.Overlooked ((Trip.bikeShare 1 2).legs 4) i := by
    rintro ⟨hmark, hall⟩
    obtain ⟨-, hr, hp⟩ := (Trip.overlooked_iff (by decide)).1 ⟨hmark, hall⟩
    obtain h | h := hstops i (Path.lt_length_of_actionAt hmark) hmark
    · exact hr h
    · exact hp h
  refine ⟨j, hj, hlength, hregular.2 ⟨?_, fun hrepeats => ?_⟩, hnone⟩
  · by_contra hpaired
    obtain ⟨_, _, herror⟩ := hreported.2 hpaired
    cases hj.symm.trans herror
  · obtain ⟨i, hi⟩ := hoverlooked.2 hrepeats
    exact hnone i hi

/-- The way with the hired bike, with another bike taken where it ends. -/
def hireTwice : Path :=
  { hire with
    maneuvers := hire.maneuvers.set 3
      { action := .rent, start := 4, instruction := some "You have arrived." } }

/-- A bike is taken twice and returned once. -/
theorem accepts_hireTwice :
    ¬ hireTwice.Regular ∧
      ((assemble ⟨1000, true, true⟩ hireTwice hireCosting none).run
        { caches := .ofCapacities fun _ => 1 }).1.map (fun j => j.sections.length) = .ok 5 ∧
      hireTwice.Overlooked ((Trip.bikeShare 1 2).legs 4) 3 := by
  have hrepeats : hireTwice.Repeats := ⟨1, 3, by decide, by decide, by decide⟩
  refine ⟨fun hregular => (Path.regular_iff.1 hregular).2 hrepeats, by decide +kernel, ?_⟩
  exact (Trip.overlooked_iff (by decide)).2 ⟨by decide, by decide, by decide⟩

end JourneyQuery

end Wayfinding
