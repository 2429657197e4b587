import Wayfinding.Proofs.Journey.Announcement

/-!
# What the totals of a journey add up

The sections of a journey move on one of the three graphs or stop at a station. The totals by mode
count the former, with as many bits as a section has for its own duration and length: they are the
sums of the sections, unless one of these sums does not fit, which is a crash. The total duration is
split into the totals by mode and the stops.

Main definitions: `Section.MovesOn`, `Section.IsStop`, `Section.sumOn`, `Totals.Counts`,
`Totals.Fits`, `Totals.Splits`.
Main lemmas: `Section.sum_eq`, `Totals.addSection_cases`, `Totals.ofSections_cases`,
`JourneyQuery.splits_of_assemble`.
-/

namespace Wayfinding

open Procedure (Leads)

variable {P : Shared → Prop} {g g' : Graph}

/-- What the totals count. -/
inductive Quantity where
  | seconds
  | meters
deriving DecidableEq

variable {x : Quantity}

namespace Totals

/-- What is counted for a graph. -/
def amount (t : Totals) : Quantity → Graph → Int32
  | .seconds, .pedestrian => t.durations.walking
  | .seconds, .bicycle => t.durations.bike
  | .seconds, .drive => t.durations.car
  | .meters, .pedestrian => t.distances.walking
  | .meters, .bicycle => t.distances.bike
  | .meters, .drive => t.distances.car

/-- What is counted for modes that have no graph. -/
def others (t : Totals) : List Int32 :=
  [t.durations.ridesharing, t.durations.taxi, t.distances.ridesharing, t.distances.taxi]

end Totals

namespace Section

variable {s : Section} {ss : List Section}

/-- How long a section takes, or how far it goes. -/
def amount (s : Section) : Quantity → Int32
  | .seconds => s.duration
  | .meters => s.length

/-- The section is on the streets and moves on a graph. -/
def MovesOn (g : Graph) (s : Section) : Prop :=
  s.kind = SectionKind.street.number ∧ s.street.map (·.mode) = some g.streetMode.number

instance : DecidablePred (MovesOn g) := fun _ => inferInstanceAs (Decidable (_ ∧ _))

/-- The section is a stop at a station. -/
def IsStop (s : Section) : Prop :=
  s.kind = SectionKind.rent.number ∨ s.kind = SectionKind.putBack.number

instance : DecidablePred IsStop := fun _ => inferInstanceAs (Decidable (_ ∨ _))

/-- A section as legs become one: it moves on a graph or is a stop, and it takes no less than no
time and goes no less than no distance. -/
structure Summand (s : Section) : Prop where
  moves_or_stops : (∃ g, s.MovesOn g) ∨ s.IsStop
  nonneg : ∀ x, 0 ≤ (s.amount x).toInt

/-- A section moves on at most one graph. -/
lemma MovesOn.unique (h : s.MovesOn g) (h' : s.MovesOn g') : g = g' := by
  have hnumber : g.streetMode.number = g'.streetMode.number :=
    Option.some.inj (h.2.symm.trans h'.2)
  revert hnumber
  cases g <;> cases g' <;> decide

/-- A section that moves is no stop. -/
lemma MovesOn.not_isStop (h : s.MovesOn g) : ¬ s.IsStop := by
  rintro (hkind | hkind)
  · exact absurd (h.1.symm.trans hkind) (by decide)
  · exact absurd (h.1.symm.trans hkind) (by decide)

/-- A plan moves on the graph of its section. -/
lemma movesOn_plan : s.plan.MovesOn g ↔ s.MovesOn g := by
  change _ ∧ (s.street.map _).map _ = _ ↔ _
  rw [Option.map_map]
  rfl

/-- A plan can be added up if its section can. -/
lemma summand_plan : s.plan.Summand ↔ s.Summand := by
  constructor
  · rintro ⟨hkind, hnonneg⟩
    simp only [movesOn_plan] at hkind
    exact ⟨hkind, hnonneg⟩
  · rintro ⟨hkind, hnonneg⟩
    refine ⟨?_, hnonneg⟩
    simp only [movesOn_plan]
    exact hkind

/-! ### Sums -/

/-- What all of some sections take or go. -/
def sum (x : Quantity) (ss : List Section) : Int := (ss.map fun s => (s.amount x).toInt).sum

/-- What those of some sections take or go that move on a graph. -/
def sumOn (x : Quantity) (g : Graph) (ss : List Section) : Int := sum x (ss.filter (MovesOn g))

/-- What the stops among some sections take. -/
def sumStops (x : Quantity) (ss : List Section) : Int := sum x (ss.filter IsStop)

/-- The time of some sections is the sum of their seconds. -/
lemma total_eq_sum : total ss = sum .seconds ss := rfl

/-- One more section adds its amount. -/
lemma sum_cons : sum x (s :: ss) = (s.amount x).toInt + sum x ss := List.sum_cons

/-- One more section adds its amount if it is among the chosen ones. -/
lemma sum_filter_cons (p : Section → Prop) [DecidablePred p] :
    sum x ((s :: ss).filter p) = (if p s then (s.amount x).toInt else 0) + sum x (ss.filter p) := by
  rw [List.filter_cons]
  simp only [decide_eq_true_eq]
  split
  · exact sum_cons
  · exact (Int.zero_add _).symm

/-- One more section adds its amount if it moves on the graph. -/
lemma sumOn_cons :
    sumOn x g (s :: ss) = (if s.MovesOn g then (s.amount x).toInt else 0) + sumOn x g ss :=
  sum_filter_cons (MovesOn g)

/-- One more section adds its amount if it is a stop. -/
lemma sumStops_cons :
    sumStops x (s :: ss) = (if s.IsStop then (s.amount x).toInt else 0) + sumStops x ss :=
  sum_filter_cons IsStop

/-- The sums of some sections and of others are those of all. -/
lemma sumOn_append (ss ss' : List Section) :
    sumOn x g (ss ++ ss') = sumOn x g ss + sumOn x g ss' := by
  induction ss with
  | nil => exact (Int.zero_add _).symm
  | cons s ss ih => rw [List.cons_append, sumOn_cons, sumOn_cons, ih, Int.add_assoc]

/-- The sum of one section is its amount, if it moves on the graph. -/
lemma sumOn_singleton : sumOn x g [s] = if s.MovesOn g then (s.amount x).toInt else 0 := by
  rw [sumOn_cons]
  exact Int.add_zero _

/-- What is added up is not negative. -/
lemma sum_nonneg (h : ∀ s ∈ ss, s.Summand) : 0 ≤ sum x ss := by
  induction ss with
  | nil => exact Int.le_refl 0
  | cons s ss ih =>
    obtain ⟨hs, hss⟩ := List.forall_mem_cons.1 h
    rw [sum_cons]
    exact Int.add_nonneg (hs.nonneg x) (ih hss)

/-- What is added up for a graph is not negative. -/
lemma sumOn_nonneg (h : ∀ s ∈ ss, s.Summand) : 0 ≤ sumOn x g ss :=
  sum_nonneg fun s hs => h s (List.mem_of_mem_filter hs)

/-- Sections that move on some graph and stops are all there is. -/
lemma sum_eq (h : ∀ s ∈ ss, s.Summand) :
    sum x ss = sumOn x .pedestrian ss + sumOn x .bicycle ss + sumOn x .drive ss +
      sumStops x ss := by
  induction ss with
  | nil => rfl
  | cons s ss ih =>
    obtain ⟨hs, hss⟩ := List.forall_mem_cons.1 h
    rw [sum_cons, sumOn_cons, sumOn_cons, sumOn_cons, sumStops_cons, ih hss]
    obtain ⟨g, hg⟩ | hstop := hs.moves_or_stops
    · have hmoves (g' : Graph) : s.MovesOn g' ↔ g = g' := ⟨hg.unique, fun h => h ▸ hg⟩
      simp only [hmoves, if_neg hg.not_isStop]
      cases g <;> simp only [reduceCtorEq, if_true, if_false] <;> omega
    · have hmoves (g' : Graph) : ¬ s.MovesOn g' := fun h => h.not_isStop hstop
      simp only [if_neg (hmoves _), if_pos hstop]
      omega

end Section

namespace Checked

variable {a b : Int32}

/-- A sum that is not below zero and fits is told exactly. -/
lemma add32_of_le (h0 : 0 ≤ a.toInt + b.toInt) (hmax : a.toInt + b.toInt ≤ Int32.maxValue.toInt) :
    ∃ n, add32 a b = .ok n ∧ n.toInt = a.toInt + b.toInt := by
  have hmin : Int32.minValue.toInt ≤ a.toInt + b.toInt := by
    rw [Int32.toInt_minValue]
    omega
  exact ⟨.ofInt (a.toInt + b.toInt), if_pos ⟨hmin, hmax⟩, Int32.toInt_ofInt_of_le hmin (by
    rw [Int32.toInt_maxValue] at hmax
    omega)⟩

/-- A sum that is too large is a crash. -/
lemma add32_of_lt (h : Int32.maxValue.toInt < a.toInt + b.toInt) :
    add32 a b = .error .sumOverflow :=
  if_neg fun hfits => absurd hfits.2 (Int.not_le.2 h)

end Checked

namespace Totals

open Checked (add32)

variable {t : Totals} {s : Section} {ss done : List Section}

/-! ### Adding sections -/

/-- The totals with other numbers for a graph. -/
def put (t : Totals) : Graph → Int32 → Int32 → Totals
  | .pedestrian, n, m =>
    ⟨{ t.durations with walking := n }, { t.distances with walking := m }⟩
  | .bicycle, n, m => ⟨{ t.durations with bike := n }, { t.distances with bike := m }⟩
  | .drive, n, m => ⟨{ t.durations with car := n }, { t.distances with car := m }⟩

/-- The seconds of one graph are put, and those of others left. -/
lemma amount_put_seconds (n m : Int32) :
    (t.put g n m).amount .seconds g' = if g = g' then n else t.amount .seconds g' := by
  cases g <;> cases g' <;> rfl

/-- The meters of one graph are put, and those of others left. -/
lemma amount_put_meters (n m : Int32) :
    (t.put g n m).amount .meters g' = if g = g' then m else t.amount .meters g' := by
  cases g <;> cases g' <;> rfl

/-- Other modes are left alone. -/
lemma others_put (n m : Int32) : (t.put g n m).others = t.others := by
  cases g <;> rfl

/-- A section that moves on a graph is added to the totals of this graph. -/
lemma addSection_of_movesOn (h : s.MovesOn g) : t.addSection s = do
    let n ← add32 (t.amount .seconds g) (s.amount .seconds)
    let m ← add32 (t.amount .meters g) (s.amount .meters)
    return t.put g n m := by
  obtain ⟨hkind, hmode⟩ := h
  obtain ⟨part, hpart, hmode⟩ := Option.map_eq_some_iff.1 hmode
  unfold addSection
  rw [hkind, SectionKind.ofNumber_number]
  simp only [hpart, hmode, StreetMode.ofNumber_number]
  cases g <;> rfl

/-- A stop is added to no totals. -/
lemma addSection_of_isStop (h : s.IsStop) : t.addSection s = .ok t := by
  unfold addSection
  obtain hkind | hkind := h
  · rw [hkind, SectionKind.ofNumber_number]
  · rw [hkind, SectionKind.ofNumber_number]

/-- The totals by mode are those of some sections, and nothing is counted for modes that have no
graph. -/
structure Counts (t : Totals) (ss : List Section) : Prop where
  amount : ∀ x g, (t.amount x g).toInt = Section.sumOn x g ss
  others : t.others = [0, 0, 0, 0]

/-- What is added up for each graph fits. -/
def Fits (ss : List Section) : Prop := ∀ x g, Section.sumOn x g ss ≤ Int32.maxValue.toInt

instance (ss : List Section) : Decidable (Fits ss) :=
  decidable_of_iff
    (∀ x ∈ [Quantity.seconds, .meters], ∀ g ∈ [Graph.pedestrian, .bicycle, .drive],
      Section.sumOn x g ss ≤ Int32.maxValue.toInt)
    ⟨fun h x g => h x (by cases x <;> decide) g (by cases g <;> decide), fun h x _ g _ => h x g⟩

/-- Nothing is counted for no sections. -/
lemma counts_nil : Counts {} [] := by
  refine ⟨fun x g => ?_, rfl⟩
  cases x <;> cases g <;> rfl

/-- What has been counted fits. -/
lemma Counts.fits (h : t.Counts ss) : Fits ss := by
  intro x g
  have hmax := (t.amount x g).toInt_le
  rwa [h.amount] at hmax

/-- What fits with more sections fits without them. -/
lemma Fits.of_append {rest : List Section} (hrest : ∀ s ∈ rest, s.Summand)
    (h : Fits (ss ++ rest)) : Fits ss := by
  intro x g
  have hmax := h x g
  have hnonneg : 0 ≤ Section.sumOn x g rest := Section.sumOn_nonneg hrest
  rw [Section.sumOn_append] at hmax
  omega

/-- The total duration is counted for no mode. -/
lemma Counts.withTotal (h : t.Counts ss) (n : Int32) :
    Counts { t with durations := { t.durations with total := n } } ss := by
  refine ⟨fun x g => ?_, h.others⟩
  rw [← h.amount]
  cases x <;> cases g <;> rfl

/-- Put together with what was counted before, a section is counted. -/
lemma Counts.put {n m : Int32} (ht : t.Counts done) (hg : s.MovesOn g)
    (hn : n.toInt = (t.amount .seconds g).toInt + (s.amount .seconds).toInt)
    (hm : m.toInt = (t.amount .meters g).toInt + (s.amount .meters).toInt) :
    (t.put g n m).Counts (done ++ [s]) := by
  refine ⟨fun x g' => ?_, (others_put n m).trans ht.others⟩
  rw [Section.sumOn_append, Section.sumOn_singleton, ← ht.amount]
  by_cases hmoves : s.MovesOn g'
  · obtain rfl := hg.unique hmoves
    rw [if_pos hmoves]
    cases x with
    | seconds => rwa [amount_put_seconds, if_pos rfl]
    | meters => rwa [amount_put_meters, if_pos rfl]
  · have hne : g ≠ g' := fun h => hmoves (h ▸ hg)
    rw [if_neg hmoves, Int.add_zero]
    cases x with
    | seconds => rw [amount_put_seconds, if_neg hne]
    | meters => rw [amount_put_meters, if_neg hne]

/-- One more section is counted, or it crashes because what is added up does not fit. -/
lemma addSection_cases (ht : t.Counts done) (hdone : ∀ s ∈ done, s.Summand) (hs : s.Summand) :
    (∃ t', t.addSection s = .ok t' ∧ t'.Counts (done ++ [s])) ∨
      (¬ Fits (done ++ [s]) ∧ t.addSection s = .error .sumOverflow) := by
  obtain ⟨g, hg⟩ | hstop := hs.moves_or_stops
  · have hnonneg (x : Quantity) : 0 ≤ (t.amount x g).toInt + (s.amount x).toInt := by
      rw [ht.amount]
      exact Int.add_nonneg (Section.sumOn_nonneg hdone) (hs.nonneg x)
    have hover (x : Quantity)
        (h : Int32.maxValue.toInt < (t.amount x g).toInt + (s.amount x).toInt) :
        ¬ Fits (done ++ [s]) := by
      intro hfits
      have hmax := hfits x g
      rw [Section.sumOn_append, Section.sumOn_singleton, if_pos hg, ← ht.amount] at hmax
      exact absurd hmax (Int.not_le.2 h)
    rw [addSection_of_movesOn hg]
    -- the seconds are added first, and the meters only when the seconds fit
    by_cases hseconds :
        Int32.maxValue.toInt < (t.amount .seconds g).toInt + (s.amount .seconds).toInt
    · rw [Checked.add32_of_lt hseconds]
      exact .inr ⟨hover .seconds hseconds, rfl⟩
    · obtain ⟨n, hn, hnvalue⟩ := Checked.add32_of_le (hnonneg .seconds) (Int.not_lt.1 hseconds)
      rw [hn]
      by_cases hmeters :
          Int32.maxValue.toInt < (t.amount .meters g).toInt + (s.amount .meters).toInt
      · rw [Checked.add32_of_lt hmeters]
        exact .inr ⟨hover .meters hmeters, rfl⟩
      · obtain ⟨m, hm, hmvalue⟩ := Checked.add32_of_le (hnonneg .meters) (Int.not_lt.1 hmeters)
        rw [hm]
        exact .inl ⟨t.put g n m, rfl, ht.put hg hnvalue hmvalue⟩
  · refine .inl ⟨t, addSection_of_isStop hstop, fun x g => ?_, ht.others⟩
    rw [Section.sumOn_append, Section.sumOn_singleton, if_neg fun h => h.not_isStop hstop,
      Int.add_zero, ht.amount]

/-- Several sections are counted, or one of them crashes because what is added up does not fit. -/
lemma foldlM_addSection_cases (ht : t.Counts done) (h : ∀ s ∈ done ++ ss, s.Summand) :
    (∃ t', ss.foldlM addSection t = .ok t' ∧ t'.Counts (done ++ ss)) ∨
      (¬ Fits (done ++ ss) ∧ ss.foldlM addSection t = .error .sumOverflow) := by
  induction ss generalizing t done with
  | nil =>
    rw [List.append_nil]
    exact .inl ⟨t, rfl, ht⟩
  | cons s ss ih =>
    obtain ⟨hdone, hcons⟩ := List.forall_mem_append.1 h
    obtain ⟨hs, hss⟩ := List.forall_mem_cons.1 hcons
    have happend : done ++ s :: ss = (done ++ [s]) ++ ss := List.append_cons done s ss
    rw [List.foldlM_cons, happend]
    rw [happend] at h
    obtain ⟨t', ht', hcounts⟩ | ⟨hfits, hcrash⟩ := addSection_cases ht hdone hs
    · rw [ht']
      exact ih hcounts h
    · rw [hcrash]
      exact .inr ⟨fun hall => hfits (hall.of_append hss), rfl⟩

/-- The totals by mode are the sums of the sections. They crash if and only if one of the sums does
not fit. -/
lemma ofSections_cases (h : ∀ s ∈ ss, s.Summand) :
    (∃ t, ofSections ss = .ok t ∧ t.Counts ss) ∨
      (¬ Fits ss ∧ ofSections ss = .error .sumOverflow) :=
  foldlM_addSection_cases counts_nil h

/-- The totals are those of some sections. The total duration is that of all of them and is split
into what is counted by mode and the stops; what is counted for a graph is what the sections take
and go that move on it, and nothing is counted for other modes. -/
structure Splits (t : Totals) (ss : List Section) : Prop where
  total : t.durations.total.toInt = Section.sum .seconds ss
  amount : ∀ x g, (t.amount x g).toInt = Section.sumOn x g ss
  others : t.others = [0, 0, 0, 0]
  total_eq : t.durations.total.toInt =
    t.durations.walking.toInt + t.durations.bike.toInt + t.durations.car.toInt +
      Section.sumStops .seconds ss

end Totals

namespace Leg

variable {path : Path} {costs : BikeShareCosts} {instructions : Bool} {leg : Leg} {s : Section}

/-- What becomes of a leg can be added up. -/
lemma summand_of_toSection (h : leg.toSection path costs instructions = .ok s) : s.Summand := by
  have hcut (n : Int) : 0 ≤ (cut n).toInt := by
    rw [toInt_cut]
    omega
  cases leg with
  | street first last stations =>
    obtain ⟨start, _, _, _, _, -, -, -, -, -, rfl⟩ := streetSection_eq_ok h
    refine ⟨.inl ⟨start.graph, rfl, rfl⟩, fun x => ?_⟩
    cases x with
    | seconds => exact hcut _
    | meters => exact hcut _
  | station index visit =>
    obtain ⟨m, -, h⟩ := exists_of_bind_eq_ok h
    obtain ⟨c, -, h⟩ := exists_of_bind_eq_ok h
    cases h
    cases visit with
    | rent =>
      refine ⟨.inr (.inl rfl), fun x => ?_⟩
      cases x with
      | seconds => exact hcut _
      | meters => exact Int.le_refl 0
    | putBack =>
      refine ⟨.inr (.inr rfl), fun x => ?_⟩
      cases x with
      | seconds => exact hcut _
      | meters => exact Int.le_refl 0

/-- What becomes of legs can be added up. -/
lemma summands {legs : List Leg} {ss : List Section}
    (h : List.Forall₂ (fun leg s => leg.toSection path costs instructions = .ok s.plan) legs ss) :
    ∀ s ∈ ss, s.Summand := by
  induction h with
  | nil => exact List.forall_mem_nil _
  | cons hs _ ih =>
    exact List.forall_mem_cons.2 ⟨Section.summand_plan.1 (summand_of_toSection hs), ih⟩

end Leg

namespace JourneyQuery

variable {q : JourneyQuery} {path : Path} {costing : Costing} {elevation : Option ElevationSource}
  {j : Journey}

/-- The sections of a journey that is assembled can be added up. -/
lemma summands_of_assemble (h : (q.assemble path costing elevation).Leads P (.done j)) :
    ∀ s ∈ j.sections, s.Summand := by
  obtain ⟨trip, -, hsections⟩ := planned_of_assemble h
  exact Leg.summands hsections

/-- An assembled journey announces its totals, and they are the sums of its sections by mode. -/
lemma totals_of_assemble (h : (q.assemble path costing elevation).Leads P (.done j)) :
    ∃ t, j.totals = .ok t ∧ t.Counts j.sections ∧ j.durations = some t.durations ∧
      j.distances = some t.distances := by
  have hsummands := summands_of_assemble h
  obtain ⟨trip, ss, t, -, -, ht, rfl⟩ := of_assemble h
  obtain ⟨byMode, n, hbyMode, -, rfl⟩ := of_totals ht
  refine ⟨_, ht, ?_, rfl, rfl⟩
  obtain ⟨t', ht', hcounts⟩ | ⟨-, hcrash⟩ := Totals.ofSections_cases hsummands
  · cases hbyMode.symm.trans ht'
    exact hcounts.withTotal n
  · cases hbyMode.symm.trans hcrash

/-- Let a message be able to carry what the sections of a journey take and go together, and let the
time line have room for them, forward or backward. Then the total duration is what all sections
take, and it is split into the durations by mode, which are those of the sections on the streets in
this mode, and the stops at stations; the distances are split in the same way. -/
theorem splits_of_assemble (hlimit : ∀ x, Section.sum x j.sections ≤ 2147483647)
    (hfits : q.Fits j.sections)
    (h : (q.assemble path costing elevation).Leads P (.done j)) :
    ∃ t : Totals, j.durations = some t.durations ∧ j.distances = some t.distances ∧
      t.Splits j.sections := by
  have hsummands := summands_of_assemble h
  obtain ⟨t, ht, hcounts, hdurations, hdistances⟩ := totals_of_assemble h
  have hspan : t.durations.total.toInt = Section.sum .seconds j.sections := by
    have hroom : q.HasRoom (Section.total j.sections) := ⟨hlimit .seconds, hfits⟩
    rw [← Section.total_eq_sum]
    obtain ⟨trip, ss, t', -, hss, ht', rfl⟩ := of_assemble h
    cases ht.symm.trans ht'
    rw [Journey.sections_withTotals, total_journey] at hroom ⊢
    have hne : ss ≠ [] := by
      rintro rfl
      exact trip.legs_ne_nil _ (List.forall₂_nil_right_iff.1 hss)
    exact hroom.toInt_total hne (Leg.durations_nonneg hss) ht'
  refine ⟨t, hdurations, hdistances, hspan, hcounts.amount, hcounts.others, ?_⟩
  rw [hspan, Section.sum_eq hsummands, ← hcounts.amount, ← hcounts.amount, ← hcounts.amount]
  rfl

/-- The hired bike: of 340 seconds, 100 are walked, 60 ridden, and 180 spent at the stations. -/
theorem splits_hire :
    ∃ j, (assemble ⟨1000, false, true⟩ hire hireCosting none).Leads (fun _ => True) (.done j) ∧
      ∃ t : Totals, j.durations = some t.durations ∧ t.Splits j.sections ∧
        t.durations = { total := 340, walking := 100, bike := 60 } ∧
        Section.sumStops .seconds j.sections = 180 := by
  have hrun : ((assemble ⟨1000, false, true⟩ hire hireCosting none).run
      { caches := .ofCapacities fun _ => 1 }).1.map
        (fun j => (j.durations, Section.sum .seconds j.sections, Section.sum .meters j.sections,
          Section.sumStops .seconds j.sections)) =
      .ok (some { total := 340, walking := 100, bike := 60 }, 340, 0, 180) := by decide +kernel
  obtain ⟨j, hleads, hvalues⟩ := Procedure.exists_leads_of_run hrun
  simp only [Prod.mk.injEq] at hvalues
  obtain ⟨hannounced, hseconds, hmeters, hstops⟩ := hvalues
  have hlimit (x : Quantity) : Section.sum x j.sections ≤ 2147483647 := by
    cases x with
    | seconds => exact hseconds.trans_le (by decide)
    | meters => exact hmeters.trans_le (by decide)
  have hfits : (⟨1000, false, true⟩ : JourneyQuery).Fits j.sections :=
    hseconds.trans_le (by decide)
  obtain ⟨t, hdurations, -, hsplits⟩ := splits_of_assemble hlimit hfits hleads
  exact ⟨j, hleads, t, hdurations, hsplits, Option.some.inj (hdurations.symm.trans hannounced),
    hstops⟩

end JourneyQuery

end Wayfinding
