import Wayfinding.Proofs.Journey.Timeline

/-!
# The time that a journey spans

The total duration of a journey is the difference of two instants, which are taken as signed
numbers. The later half of the time line is negative then: the difference does not fit if the
journey passes from the earlier half to the later one, and is right otherwise.

Main definitions: `Instant.middle`, `JourneyQuery.PassesMiddle`, `JourneyQuery.room`.
Main lemmas: `Journey.elapsedBetween_eq`, `JourneyQuery.ends_journey`, `JourneyQuery.span_journey`,
`JourneyQuery.total_of_totals`.
-/

namespace Wayfinding

namespace Instant

/-- The first instant of the later half of the time line. -/
def middle : Nat := 9223372036854775808

/-- Instants of the later half are negative as signed numbers. -/
lemma toInt_toInt64 (t : UInt64) : t.toInt64.toInt =
    if t.toNat < middle then (t.toNat : Int) else t.toNat - 2 * middle := by
  have hdouble : ((2 ^ 64 : Nat) : Int) = 2 * middle := rfl
  change t.toBitVec.toInt = _
  rw [BitVec.toInt_eq_toNat_cond, UInt64.toNat_toBitVec, hdouble]
  unfold middle
  split <;> split <;> omega

end Instant

namespace Checked

variable {a b : Int64}

/-- A difference that has 64 bits is exact. -/
lemma sub64_of_lt (hmin : -(Instant.middle : Int) ≤ a.toInt - b.toInt)
    (hmax : a.toInt - b.toInt < Instant.middle) :
    ∃ n, sub64 a b = .ok n ∧ n.toInt = a.toInt - b.toInt := by
  unfold Instant.middle at hmin hmax
  refine ⟨Int64.ofInt (a.toInt - b.toInt), ?_, Int64.toInt_ofInt_of_le hmin hmax⟩
  unfold sub64
  rw [Int64.toInt_minValue, Int64.toInt_maxValue]
  exact if_pos ⟨hmin, Int.le_sub_one_of_lt hmax⟩

/-- A difference that is too small for 64 bits overflows. -/
lemma sub64_of_lt_neg (h : a.toInt - b.toInt < -(Instant.middle : Int)) :
    sub64 a b = .error .differenceOverflow := by
  unfold Instant.middle at h
  unfold sub64
  rw [Int64.toInt_minValue]
  exact if_neg fun hfits => absurd hfits.1 (Int.not_le.2 h)

end Checked

namespace Journey

variable {first last : UInt64} {d : Nat}

/-- The time between two instants is cut to what a message can carry. It cannot be told when one is
in the earlier half of the time line and the other one is in the later half. -/
lemma elapsedBetween_eq (first last : UInt64) (hlast : last.toNat = first.toNat + d)
    (hd : d < Instant.middle) :
    elapsedBetween first last =
      if first.toNat < Instant.middle ∧ Instant.middle ≤ last.toNat then .error .differenceOverflow
      else .ok (Leg.cut d) := by
  have hlt := last.toNat_lt
  have hfirst := Instant.toInt_toInt64 first
  have hlast' := Instant.toInt_toInt64 last
  unfold elapsedBetween
  unfold Instant.middle at *
  split
  · next hmiddle =>
    rw [if_pos hmiddle.1] at hfirst
    rw [if_neg (Nat.not_lt.2 hmiddle.2)] at hlast'
    rw [Checked.sub64_of_lt_neg (by unfold Instant.middle; omega)]
    rfl
  · next hmiddle =>
    have hdistance : last.toInt64.toInt - first.toInt64.toInt = d := by
      rw [hfirst, hlast']
      split <;> split <;> omega
    obtain ⟨n, hn, hvalue⟩ := Checked.sub64_of_lt (a := last.toInt64) (b := first.toInt64)
      (by unfold Instant.middle; omega) (by unfold Instant.middle; omega)
    rw [hdistance] at hvalue
    rw [hn]
    change Except.ok (if _ then _ else _) = _
    rw [hvalue]
    refine congrArg Except.ok ?_
    have hmin : Int32.minValue.toInt ≤ d := by
      rw [Int32.toInt_minValue]
      omega
    unfold Leg.cut
    split
    · next hfits =>
      have hcut : min Int32.maxValue.toInt (max 0 d) = d := by omega
      rw [hcut]
    · next hover =>
      have hcut : min Int32.maxValue.toInt (max 0 d) = Int32.maxValue.toInt := by omega
      rw [hcut, Int32.ofInt_toInt]

end Journey

/-! ### The ends of a journey -/

namespace Section

variable {ss : List Section}

/-- Sections that follow each other end as much later as they take, but not after the time line. -/
lemma exists_getLast?_chainFrom (index : Nat) (clock : UInt64) (hne : ss ≠ [])
    (h : ∀ s ∈ ss, 0 ≤ s.duration.toInt) :
    ∃ last, (chainFrom index clock ss).getLast? = some last ∧
      (last.endsAt.toNat : Int) = min (Instant.last : Int) (clock.toNat + total ss) := by
  induction ss generalizing index clock with
  | nil => exact absurd rfl hne
  | cons s ss ih =>
    obtain ⟨hs, hss⟩ := List.forall_mem_cons.1 h
    have hclock := Instant.toNat_le_last clock
    have hend : ((s.startingAt index clock).endsAt.toNat : Int) =
        min (Instant.last : Int) (clock.toNat + s.duration.toInt) := by
      simp only [startingAt, Instant.toNat_shift]
      omega
    cases ss with
    | nil =>
      refine ⟨s.startingAt index clock, rfl, ?_⟩
      rw [hend, total_cons, total_nil, Int.add_zero]
    | cons s' ss =>
      obtain ⟨last, hlast, hvalue⟩ :=
        ih (index + 1) (s.startingAt index clock).endsAt
          (List.cons_ne_nil s' ss) hss
      refine ⟨last, ?_, ?_⟩
      · rw [chainFrom, chainFrom, List.getLast?_cons_cons]
        exact hlast
      · have htotal := total_nonneg hss
        have hcons : total (s :: s' :: ss) = s.duration.toInt + total (s' :: ss) := total_cons
        rw [hvalue, hend, hcons]
        omega

end Section

namespace JourneyQuery

variable {q : JourneyQuery} {path : Path} {ss : List Section}

/-- For how long the time line goes on after the requested departure, or before the requested
arrival. -/
def room (q : JourneyQuery) : Nat :=
  if q.clockwise then Instant.last - q.datetime.toNat else q.datetime.toNat

/-- A journey that takes so long passes from the earlier half of the time line to the later one. -/
def PassesMiddle (q : JourneyQuery) (d : Int) : Prop :=
  if q.clockwise then
    q.datetime.toNat < Instant.middle ∧ Instant.middle ≤ (q.datetime.toNat : Int) + d
  else (q.datetime.toNat : Int) - d < Instant.middle ∧ Instant.middle ≤ q.datetime.toNat

instance (d : Int) : Decidable (q.PassesMiddle d) := by
  unfold PassesMiddle
  infer_instance

/-- From the begin of the first section to the end of the last one it takes as long as the sections
do, unless the time line ends before. One of the two is at the requested instant. -/
lemma ends_journey (q : JourneyQuery) (path : Path) (hne : ss ≠ [])
    (hnonneg : ∀ s ∈ ss, 0 ≤ s.duration.toInt) :
    ∃ first last, (q.journey path ss).sections.head? = some first ∧
      (q.journey path ss).sections.getLast? = some last ∧
      (last.endsAt.toNat : Int) - first.beginsAt.toNat = min (Section.total ss) q.room ∧
      (if q.clockwise then first.beginsAt else last.endsAt) = q.datetime := by
  have hdatetime := Instant.toNat_le_last q.datetime
  have htotal := Section.total_nonneg hnonneg
  rw [sections_journey, room]
  split
  · obtain ⟨last, hlast, hends⟩ :=
      Section.exists_getLast?_chainFrom 0 q.datetime hne hnonneg
    obtain ⟨first, hfirst, hbegins⟩ :=
      Option.map_eq_some_iff.1 (Section.head?_chainFrom 0 q.datetime hne)
    refine ⟨first, last, hfirst, hlast, ?_, hbegins⟩
    rw [hbegins, hends]
    omega
  · have hne' := Section.chain_ne_nil q.datetime hne
    have hnonneg' := Section.duration_nonneg_chain q.datetime hnonneg
    obtain ⟨last, hlast, hends⟩ :=
      Option.map_eq_some_iff.1 (Section.getLast?_chainBack q.datetime hne')
    obtain ⟨first, hfirst⟩ : ∃ first,
        (Section.chainBack q.datetime (Section.chain q.datetime ss)).head? = some first :=
      ⟨_, List.head?_eq_some_head (Section.chainBack_ne_nil hne')⟩
    have hbegins := Section.toNat_startOf_chainBack q.datetime hnonneg'
    rw [Section.startOf, hfirst, Option.map_some, Option.getD_some, Section.total_chain] at hbegins
    refine ⟨first, last, hfirst, hlast, ?_, hends⟩
    rw [hends, hbegins]
    omega

/-- The total duration of a journey is what its sections take, unless the time line ends before, cut
to what a message can carry. There is none when the journey passes the middle of the time line. -/
lemma span_journey (q : JourneyQuery) (path : Path) (hne : ss ≠ [])
    (hnonneg : ∀ s ∈ ss, 0 ≤ s.duration.toInt) (hfew : Section.total ss < Instant.middle) :
    Journey.span (q.journey path ss).sections =
      if q.PassesMiddle (Section.total ss) then .error .differenceOverflow
      else .ok (Leg.cut (min (Section.total ss) q.room)) := by
  obtain ⟨first, last, hfirst, hlast, hbetween, hanchor⟩ := q.ends_journey path hne hnonneg
  obtain ⟨d, hd⟩ := Int.eq_ofNat_of_zero_le (Section.total_nonneg hnonneg)
  rw [hd] at hbetween hfew ⊢
  have hspan := Journey.elapsedBetween_eq first.beginsAt last.endsAt
    (d := min d q.room) (by omega) (by omega)
  have hmiddle : (first.beginsAt.toNat < Instant.middle ∧ Instant.middle ≤ last.endsAt.toNat) ↔
      q.PassesMiddle d := by
    have hdatetime := Instant.toNat_le_last q.datetime
    have hhalf : 2 * Instant.middle = Instant.last + 1 := rfl
    unfold PassesMiddle
    unfold room at hbetween
    split
    · next hc =>
      rw [if_pos hc] at hbetween hanchor
      rw [← hanchor] at hbetween hdatetime ⊢
      omega
    · next hc =>
      rw [if_neg hc] at hbetween hanchor
      rw [← hanchor] at hbetween hdatetime ⊢
      omega
  rw [Journey.span, hfirst, hlast]
  have hmin : ((min d q.room : Nat) : Int) = min (d : Int) q.room := by omega
  simp only [hspan, hmiddle, hmin]

/-- The totals of a journey that has them are those by mode and the time that it spans. -/
lemma of_totals {j : Journey} {t : Totals} (h : j.totals = .ok t) :
    ∃ byMode n, Totals.ofSections j.sections = .ok byMode ∧ Journey.span j.sections = .ok n ∧
      t = { byMode with durations := { byMode.durations with total := n } } := by
  obtain ⟨byMode, hbyMode, h⟩ := exists_of_bind_eq_ok h
  obtain ⟨n, hn, h⟩ := exists_of_bind_eq_ok h
  exact ⟨byMode, n, hbyMode, hn, (Except.ok.inj h).symm⟩

/-- Totals that are there have the time that the journey spans. -/
lemma total_of_totals {t : Totals} (hne : ss ≠ []) (hnonneg : ∀ s ∈ ss, 0 ≤ s.duration.toInt)
    (hfew : Section.total ss < Instant.middle) (h : (q.journey path ss).totals = .ok t) :
    t.durations.total = Leg.cut (min (Section.total ss) q.room) := by
  obtain ⟨byMode, n, -, hn, rfl⟩ := of_totals h
  rw [q.span_journey path hne hnonneg hfew] at hn
  split at hn
  · cases hn
  · exact (Except.ok.inj hn).symm

end JourneyQuery

end Wayfinding
