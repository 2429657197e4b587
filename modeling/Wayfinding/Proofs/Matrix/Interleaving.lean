import Wayfinding.Proofs.Matrix.Cells

/-!
# Which result a cell shows

The layout takes the results of the engine one by one, row by row. Which of them a pair of indices
gets can also be counted: it is the one after those of all located sources before, each with every
located target, and after those of the same source with the located targets before. So it depends on
nothing else, and a list that ends early leaves cells without a result but moves none of them.

Main definitions: `Matrix.resultIndex`, `Matrix.result?`, `MatrixCell.showing`.
Main lemmas: `Matrix.fillRow_eq`, `Matrix.fill_eq_range`, `Matrix.existsUnique_resultIndex`,
`Matrix.interleaves_assemble`.
-/

namespace Wayfinding

/-- The cell of a pair with a result, which tells how long it takes and whether it is reached, or
without one. -/
def MatrixCell.showing (maxDuration : Nat) : Option TimeDistance → MatrixCell
  | none => ⟨-1, Reachability.unreached.number⟩
  | some result =>
    { duration := Int32.ofInt (min result.time Int32.maxValue.toInt)
      status := (if result.time < unreachableTime ∧ result.time ≤ maxDuration
        then Reachability.reached else .unreached).number }

namespace Matrix

variable {maxDuration i j k : Nat} {source : Bool} {located sources targets : List Bool}
  {results : List TimeDistance}

/-- Both indices of a pair are located. -/
def Located (sources targets : List Bool) (i j : Nat) : Prop :=
  sources[i]? = some true ∧ targets[j]? = some true

instance : Decidable (Located sources targets i j) := inferInstanceAs (Decidable (_ ∧ _))

/-- Where in the results a pair has its own: each located source before it takes as many results as
there are located targets, and its source takes one for each located target before. -/
def resultIndex (sources targets : List Bool) (i j : Nat) : Nat :=
  sources.countBefore true i * targets.count true + targets.countBefore true j

/-- The result of a pair, if both indices are located and there is one. -/
def result? (sources targets : List Bool) (results : List TimeDistance) (i j : Nat) :
    Option TimeDistance :=
  if Located sources targets i j then results[resultIndex sources targets i j]? else none

/-! ### Results that are taken one by one -/

/-- In the first row, the results are those of the located targets in their order. -/
lemma resultIndex_zero : resultIndex (source :: sources) targets 0 j =
    targets.countBefore true j := by
  rw [resultIndex, List.countBefore_zero, Nat.zero_mul, Nat.zero_add]

/-- In any other row, the results come after those of the rows before. -/
lemma resultIndex_succ : resultIndex (source :: sources) targets (i + 1) j =
    source.toNat * targets.count true + resultIndex sources targets i j := by
  cases source with
  | false => simp only [resultIndex, List.countBefore_cons_succ, beq_true, Bool.false_eq_true,
      if_false, Nat.add_zero, Bool.toNat_false, Nat.zero_mul, Nat.zero_add]
  | true =>
    simp only [resultIndex, List.countBefore_cons_succ, beq_self_eq_true, if_true, Bool.toNat_true,
      Nat.one_mul]
    rw [Nat.succ_mul]
    omega

/-- A cell without a result shows none. -/
lemma failed_eq (maxDuration : Nat) : MatrixCell.failed = .showing maxDuration none := rfl

/-- A cell with a result shows it. -/
lemma ofResult_eq (result : TimeDistance) :
    MatrixCell.ofResult maxDuration result = .showing maxDuration (some result) := by
  have hmin : min (result.time : Int) Int32.maxValue.toInt =
      (min result.time MatrixCell.longestDuration : Nat) := by
    rw [Int32.toInt_maxValue, MatrixCell.longestDuration]
    omega
  simp only [MatrixCell.ofResult, MatrixCell.reaches, MatrixCell.showing, hmin, decide_eq_true_eq]
  rfl

/-- A located source takes a result for each located target and leaves the rest. -/
lemma fillRow_true (targets : List Bool) (results : List TimeDistance) :
    fillRow maxDuration true targets results =
      ((List.range targets.length).map fun j => .showing maxDuration
        (if targets[j]? = some true then results[targets.countBefore true j]? else none),
      results.drop (targets.count true)) := by
  induction targets generalizing results with
  | nil => rfl
  | cons target targets ih =>
    rw [List.length_cons, List.range_succ_eq_map]
    cases target with
    | false => simp [fillRow, ih, failed_eq maxDuration, Function.comp_def]
    | true =>
      cases results with
      | nil => simp [fillRow, ih, failed_eq maxDuration, Function.comp_def]
      | cons result results => simp [fillRow, ih, ofResult_eq, Function.comp_def]

/-- The row of the first source, and the results that are left for the others. -/
lemma fillRow_eq (sources targets : List Bool) (results : List TimeDistance) :
    fillRow maxDuration source targets results =
      ((List.range targets.length).map fun j =>
        .showing maxDuration (result? (source :: sources) targets results 0 j),
      results.drop (source.toNat * targets.count true)) := by
  cases source with
  | false =>
    have hnone (j : Nat) : result? (false :: sources) targets results 0 j = none :=
      if_neg fun h => absurd h.1 (by simp)
    simp only [hnone, Bool.toNat_false, Nat.zero_mul, List.drop_zero, List.map_const',
      List.length_range, fillRow_unlocated, failed_eq maxDuration]
  | true =>
    simp only [fillRow_true, result?, Located, List.getElem?_cons_zero, true_and, resultIndex_zero,
      Bool.toNat_true, Nat.one_mul]

/-- The other sources find their results among those that the first one leaves. -/
lemma result?_succ : result? (source :: sources) targets results (i + 1) j =
    result? sources targets (results.drop (source.toNat * targets.count true)) i j := by
  simp only [result?, Located, List.getElem?_cons_succ, List.getElem?_drop, resultIndex_succ]

/-- Each cell shows the result at its index, if it has one. -/
lemma fill_eq_range (sources targets : List Bool) (results : List TimeDistance) :
    fill maxDuration targets sources results =
      (List.range sources.length).map fun i => (List.range targets.length).map fun j =>
        .showing maxDuration (result? sources targets results i j) := by
  induction sources generalizing results with
  | nil => rfl
  | cons source sources ih =>
    rw [fill, fillRow_eq sources, ih, List.length_cons, List.range_succ_eq_map, List.map_cons,
      List.map_map]
    simp only [Function.comp_def, Nat.succ_eq_add_one, result?_succ]

/-! ### One result for each pair -/

/-- A located place comes before the end of the located ones. -/
lemma countBefore_lt (h : located[i]? = some true) :
    located.countBefore true i < located.count true := by
  obtain ⟨_, hi⟩ := List.getElem?_eq_some_iff.1 h
  exact List.countBefore_lt_count_of_lt_length_of_beq (beq_iff_eq.2 hi)

/-- A located index is found again by how many of them come before it. -/
lemma idxOfNth_countBefore (h : located[i]? = some true) :
    located.idxOfNth true (located.countBefore true i) = i := by
  obtain ⟨_, hi⟩ := List.getElem?_eq_some_iff.1 h
  exact List.idxOfNth_countBefore_of_lt_length_of_beq (beq_iff_eq.2 hi)

/-- The place that is found by its rank is located. -/
lemma getElem?_idxOfNth (h : k < located.count true) :
    located[located.idxOfNth true k]? = some true := by
  rw [List.getElem?_eq_getElem (List.idxOfNth_lt_length_of_lt_count h), List.getElem_idxOfNth_eq]

/-- There is a result for each pair of located places. -/
lemma resultIndex_lt (h : Located sources targets i j) :
    resultIndex sources targets i j < sources.count true * targets.count true := by
  obtain ⟨hi, hj⟩ := h
  calc resultIndex sources targets i j
      < sources.countBefore true i * targets.count true + targets.count true :=
        Nat.add_lt_add_left (countBefore_lt hj) _
    _ = (sources.countBefore true i + 1) * targets.count true := (Nat.succ_mul _ _).symm
    _ ≤ sources.count true * targets.count true := Nat.mul_le_mul_right _ (countBefore_lt hi)

/-- Each of as many results as there are located pairs is the result of just one of them. -/
lemma existsUnique_resultIndex (h : k < sources.count true * targets.count true) :
    ∃! p : Nat × Nat, Located sources targets p.1 p.2 ∧
      resultIndex sources targets p.1 p.2 = k := by
  have hpos : 0 < targets.count true := Nat.pos_of_mul_pos_left (Nat.zero_lt_of_lt h)
  have hi : k / targets.count true < sources.count true :=
    Nat.div_lt_of_lt_mul (Nat.mul_comm .. ▸ h)
  have hj : k % targets.count true < targets.count true := Nat.mod_lt k hpos
  refine ⟨(sources.idxOfNth true (k / targets.count true),
    targets.idxOfNth true (k % targets.count true)), ⟨⟨?_, ?_⟩, ?_⟩, ?_⟩
  · exact getElem?_idxOfNth hi
  · exact getElem?_idxOfNth hj
  · rw [resultIndex, List.countBefore_idxOfNth_of_lt_count hi,
      List.countBefore_idxOfNth_of_lt_count hj, Nat.div_add_mod']
  · -- the counts before a pair are the quotient and the remainder of the index of its result
    rintro ⟨i, j⟩ ⟨⟨hsource, htarget⟩, hk⟩
    have hsum : targets.countBefore true j +
        targets.count true * sources.countBefore true i = k := by
      rw [Nat.add_comm, Nat.mul_comm]
      exact hk
    obtain ⟨hdiv, hmod⟩ := (Nat.div_mod_unique hpos).2 ⟨hsum, countBefore_lt htarget⟩
    rw [hdiv, hmod, idxOfNth_countBefore hsource, idxOfNth_countBefore htarget]

/-- The matrix of any results has the cell of each pair at its place: all sources in one row when
several of them share one target, and a row for each source otherwise. A pair whose result a shorter
list does not reach has none, and any other keeps its own; and when there is one result for each
located pair, each pair has one and each result is that of just one pair. -/
theorem interleaves_assemble (sources targets : List Bool) (results : List TimeDistance)
    (maxDuration : Nat) :
    (assemble sources targets results maxDuration).rows =
      (if 1 < sources.length ∧ targets.length = 1 then
        [⟨(List.range sources.length).map fun i =>
          .showing maxDuration (result? sources targets results i 0)⟩]
      else (List.range sources.length).map fun i =>
        ⟨(List.range targets.length).map fun j =>
          .showing maxDuration (result? sources targets results i j)⟩) ∧
    (∀ n i j, result? sources targets (results.take n) i j =
      if resultIndex sources targets i j < n then result? sources targets results i j else none) ∧
    (results.length = sources.count true * targets.count true →
      (∀ i j, Located sources targets i j → (result? sources targets results i j).isSome) ∧
      ∀ k < results.length, ∃! p : Nat × Nat, Located sources targets p.1 p.2 ∧
        resultIndex sources targets p.1 p.2 = k) := by
  refine ⟨?_, fun n i j => ?_, fun hlength => ⟨fun i j hlocated => ?_, fun k hk => ?_⟩⟩
  · rw [assemble, ofGrid, fill_eq_range]
    split
    · next h =>
      obtain ⟨-, htargets⟩ := h
      simp only [htargets, List.range_one, List.map_cons, List.map_nil, ← List.flatMap_def]
      exact congrArg (fun cells => [MatrixRow.mk cells]) (List.flatMap_pure_eq_map _ _)
    · rw [List.map_map]
      rfl
  · unfold result?
    split
    · rw [List.getElem?_take]
    · exact (ite_self none).symm
  · have hlt := resultIndex_lt hlocated
    rw [result?, if_pos hlocated, List.getElem?_eq_getElem (hlength ▸ hlt), Option.isSome_some]
  · exact existsUnique_resultIndex (hlength ▸ hk)

/-- Of three sources the second is not located, nor is the middle one of three targets: each of the
four results has its pair. -/
theorem interleaves_scattered :
    (assemble [true, false, true] [true, false, true]
        [⟨10, 1⟩, ⟨20, 2⟩, ⟨30, 3⟩, ⟨40, 4⟩] 30).rows =
      [⟨[⟨10, 1⟩, ⟨-1, 2⟩, ⟨20, 1⟩]⟩, ⟨[⟨-1, 2⟩, ⟨-1, 2⟩, ⟨-1, 2⟩]⟩,
        ⟨[⟨30, 1⟩, ⟨-1, 2⟩, ⟨40, 2⟩]⟩] ∧
      ∀ k < 4, ∃! p : Nat × Nat, Located [true, false, true] [true, false, true] p.1 p.2 ∧
        resultIndex [true, false, true] [true, false, true] p.1 p.2 = k := by
  obtain ⟨hrows, -, honce⟩ := interleaves_assemble [true, false, true] [true, false, true]
    [⟨10, 1⟩, ⟨20, 2⟩, ⟨30, 3⟩, ⟨40, 4⟩] 30
  exact ⟨hrows.trans (by decide), (honce rfl).2⟩

end Matrix

end Wayfinding
