import Wayfinding.Proofs.Number.Magnitude
import Wayfinding.Proofs.Number.Order

/-!
# Bounds that survive rounding

Rounding may change a result, but not so far that it passes a number which the exact result is not
below. So a bound that is a number itself, such as a count of seconds, holds for the rounded result
if it holds for the exact one.

Main definition: `Binary64.AtLeast`.
Main lemmas: `Binary64.le_ofRatio`, `Binary64.le_mul`, `Binary64.atLeast_ofRatio`,
`Binary64.atLeast_div`, `Binary64.AtLeast.toRound`, `Binary64.AtLeast.le_toWord32`.
-/

namespace Wayfinding.Binary64

variable {x y z : Binary64} {n num den : Nat}

/-! ### Magnitudes of words -/

/-- Both ways to compute the magnitude of the infinities agree. -/
lemma infinity_double : BinaryFormat.double.infinity = infinityMagnitude := by decide

/-- One has 2¹⁰⁷⁴ of the smallest units. -/
lemma oneUnits_eq : oneUnits = 2 ^ 1074 := by
  unfold oneUnits
  generalize 1074 = bits
  exact Nat.pow_eq

/-- One has units. -/
lemma oneUnits_pos : 0 < oneUnits := by
  unfold oneUnits
  generalize 1074 = bits
  exact Nat.two_pow_pos bits

/-- Both ways to compute the units of one agree. -/
lemma one_double : BinaryFormat.double.one = oneUnits := by
  unfold oneUnits BinaryFormat.one
  congr 1

/-- Magnitudes are ordered as the units are for which they stand. -/
lemma units_le_units : x.units ≤ y.units ↔ x.magnitude ≤ y.magnitude :=
  BinaryFormat.double.units_strictMono.le_iff_le

/-- What is no NaN has at most the magnitude of the infinities. -/
lemma magnitude_le (h : x.isNaN = false) : x.magnitude ≤ BinaryFormat.double.infinity := by
  rw [infinity_double]
  exact Nat.not_lt.1 (of_decide_eq_false h)

/-- The sign is put in front of the magnitude. -/
lemma toNat_ofParts {m : Nat} (negative : Bool) (h : m < signWord) :
    (ofParts negative m).bits.toNat = if negative then signWord + m else m := by
  have hsign : signWord + signWord = UInt64.size := rfl
  exact UInt64.toNat_ofNat_of_lt (by split <;> omega)

/-- The magnitude is found again behind the sign. -/
lemma magnitude_ofParts {m : Nat} (negative : Bool) (h : m < signWord) :
    (ofParts negative m).magnitude = m := by
  rw [magnitude, toNat_ofParts negative h]
  cases negative with
  | false => exact Nat.mod_eq_of_lt h
  | true => rw [if_pos rfl, Nat.add_mod_left, Nat.mod_eq_of_lt h]

/-- The sign is found again in front of the magnitude. -/
lemma isNegative_ofParts {m : Nat} (negative : Bool) (h : m < signWord) :
    (ofParts negative m).isNegative = negative := by
  rw [isNegative, toNat_ofParts negative h]
  cases negative with
  | false => exact decide_eq_false (Nat.not_le.2 h)
  | true => exact decide_eq_true (Nat.le_add_right _ _)

/-- What is rounded leaves the place of the sign free. -/
lemma nearest_lt_signWord (num den : Nat) : BinaryFormat.double.nearest num den < signWord := by
  have hle : BinaryFormat.double.nearest num den ≤ BinaryFormat.double.infinity :=
    Nat.min_le_left _ _
  have hlt : BinaryFormat.double.infinity < signWord := by decide
  exact Nat.lt_of_le_of_lt hle hlt

/-- The magnitude of a quotient is the rounded quotient. -/
@[simp] lemma magnitude_ofRatio (negative : Bool) (num den : Nat) :
    (ofRatio negative num den).magnitude = BinaryFormat.double.nearest num den :=
  magnitude_ofParts negative (nearest_lt_signWord num den)

/-- A quotient has the sign that it was given. -/
@[simp] lemma isNegative_ofRatio (negative : Bool) (num den : Nat) :
    (ofRatio negative num den).isNegative = negative :=
  isNegative_ofParts negative (nearest_lt_signWord num den)

/-- A quotient of numbers is no NaN. -/
@[simp] lemma isNaN_ofRatio (negative : Bool) (num den : Nat) :
    (ofRatio negative num den).isNaN = false := by
  rw [isNaN, magnitude_ofRatio, ← infinity_double]
  exact decide_eq_false (Nat.not_lt.2 (Nat.min_le_left _ _))

/-! ### Positive numbers -/

/-- The place in the order is not above that of the positive number. -/
lemma key_le_magnitude (x : Binary64) : x.key ≤ x.magnitude := by
  unfold key
  split <;> omega

/-- Positive numbers are ordered by their magnitude. -/
lemma key_eq_magnitude (h : x.isNegative = false) : x.key = x.magnitude := by
  simp [key, h]

/-- Positive is what is no NaN, has no sign and is no zero. -/
lemma pos_iff : 0 < x ↔ x.isNaN = false ∧ x.isNegative = false ∧ 0 < x.magnitude := by
  have hzero : key 0 = 0 := rfl
  rw [lt_iff, hzero]
  cases hx : x.isNegative with
  | false => simp [key_eq_magnitude hx]
  | true =>
    have hkey : x.key ≤ 0 := by
      simp [key, hx]
    simp [Int.not_lt.2 hkey]

/-- What is not negative is positive or a zero. -/
lemma pos_or_zero (h : 0 ≤ x) : 0 < x ∨ x ≤ 0 ∧ x.units = 0 := by
  have hzero : key 0 = 0 := rfl
  obtain ⟨-, hx, hkey⟩ := h
  obtain hlt | heq := Int.lt_or_eq_of_le hkey
  · exact .inl ⟨isNaN_zero, hx, hlt⟩
  · refine .inr ⟨⟨hx, isNaN_zero, Int.le_of_eq heq.symm⟩, ?_⟩
    have hm : x.magnitude = 0 := by
      rw [hzero] at heq
      unfold key at heq
      split at heq <;> omega
    rw [units, hm]
    rfl

/-- A positive number has units. -/
lemma units_pos (h : 0 < x) : 0 < x.units := by
  obtain ⟨-, -, hm⟩ := pos_iff.1 h
  exact BinaryFormat.double.units_strictMono hm

/-- Positive numbers are ordered as their units are. -/
lemma units_le_of_le (hx : 0 < x) (h : x ≤ y) : x.units ≤ y.units := by
  obtain ⟨-, hsign, -⟩ := pos_iff.1 hx
  obtain ⟨-, hsign', -⟩ := pos_iff.1 (Binary64.lt_of_lt_of_le hx h)
  have hkey := h.2.2
  rw [key_eq_magnitude hsign, key_eq_magnitude hsign'] at hkey
  exact units_le_units.2 (Int.ofNat_le.1 hkey)

/-- What has fewer units than a number is finite. -/
lemma isFinite_of_units_lt (hy : y.isNaN = false) (h : x.units < y.units) : x.isFinite = true := by
  have hlt : x.magnitude < y.magnitude := BinaryFormat.double.units_strictMono.lt_iff_lt.1 h
  have hle := magnitude_le hy
  rw [infinity_double] at hle
  exact decide_eq_true (Nat.lt_of_lt_of_le hlt hle)

/-! ### Rounded results -/

/-- What is at most a quotient is at most its rounding. -/
lemma le_ofRatio (hz : z.isNaN = false) (hden : 0 < den)
    (h : z.units * den ≤ num * oneUnits) : z ≤ ofRatio false num den := by
  refine ⟨hz, isNaN_ofRatio _ _ _, Int.le_trans z.key_le_magnitude ?_⟩
  rw [key_eq_magnitude (isNegative_ofRatio _ _ _), magnitude_ofRatio, Int.ofNat_le]
  exact BinaryFormat.le_nearest hden (magnitude_le hz) (by rw [one_double]; exact h)

/-- Nothing is above infinity. -/
lemma le_infinity (hz : z.isNaN = false) : z ≤ infinity false := by
  have hm : infinityMagnitude < signWord := by decide
  have hnan : (infinity false).isNaN = false := by decide
  refine ⟨hz, hnan, Int.le_trans z.key_le_magnitude ?_⟩
  rw [infinity, key_eq_magnitude (isNegative_ofParts false hm), magnitude_ofParts false hm,
    Int.ofNat_le, ← infinity_double]
  exact magnitude_le hz

/-- A product of positive numbers is no less than a number which the exact product is not below. -/
lemma le_mul (hz : z.isNaN = false) (hx : 0 < x) (hy : 0 < y)
    (h : z.units * oneUnits ≤ x.units * y.units) : z ≤ x * y := by
  obtain ⟨hxn, hxs, hxm⟩ := pos_iff.1 hx
  obtain ⟨hyn, hys, hym⟩ := pos_iff.1 hy
  change z ≤ mul x y
  simp only [mul, hxn, hyn, hxs, hys, Bool.false_eq_true, if_false, bne_self_eq_false]
  split
  · refine le_ofRatio hz (Nat.mul_pos oneUnits_pos oneUnits_pos) ?_
    rw [← Nat.mul_assoc]
    exact Nat.mul_le_mul_right _ h
  · have hm : ¬(x.magnitude = 0 || y.magnitude = 0) = true := by
      simp [Nat.ne_of_gt hxm, Nat.ne_of_gt hym]
    rw [if_neg hm]
    exact le_infinity hz

/-- Multiplied by a number from one on, and cut to zero from below, a number does not fall below a
bound. -/
lemma le_max_mul (hz : 0 ≤ z) (hzx : z ≤ x) (hone : oneUnits ≤ y.units) (hy : 0 < y) :
    z ≤ (x * y).max 0 := by
  obtain hpos | ⟨hzero, -⟩ := pos_or_zero hz
  · have hx : 0 < x := Binary64.lt_of_lt_of_le hpos hzx
    have hmul : z ≤ x * y :=
      le_mul hz.2.1 hx hy (Nat.mul_le_mul (units_le_of_le hpos hzx) hone)
    exact Binary64.le_trans hmul (le_max_left hmul.2.1 isNaN_zero)
  · exact Binary64.le_trans hzero (le_max_right isNaN_zero)

/-! ### Whole numbers as bounds -/

/-- The number is at least a whole one. -/
structure AtLeast (n : Nat) (x : Binary64) : Prop where
  isNegative : x.isNegative = false
  isNaN : x.isNaN = false
  le_units : n * oneUnits ≤ x.units

/-- A whole number of at most 53 bits is among the numbers that are represented. -/
lemma exists_units_eq (hn : n ≤ 2 ^ 53) :
    ∃ m ≤ BinaryFormat.double.infinity, BinaryFormat.double.units m = n * oneUnits := by
  obtain ⟨m, hle, hm⟩ := BinaryFormat.double.exists_units hn 1074
  rw [← oneUnits_eq] at hm
  exact ⟨m, Nat.le_trans hle (by decide), hm⟩

/-- A quotient that is at least a whole number is so after its rounding. -/
lemma atLeast_ofRatio (hn : n ≤ 2 ^ 53) (hden : 0 < den) (h : n * den ≤ num) :
    AtLeast n (ofRatio false num den) := by
  obtain ⟨m, hinfinity, hm⟩ := exists_units_eq hn
  have hnearest : m ≤ BinaryFormat.double.nearest num den := by
    refine BinaryFormat.le_nearest hden hinfinity ?_
    rw [hm, one_double, Nat.mul_right_comm]
    exact Nat.mul_le_mul_right _ h
  refine ⟨isNegative_ofRatio _ _ _, isNaN_ofRatio _ _ _, ?_⟩
  rw [← hm, units, magnitude_ofRatio]
  exact BinaryFormat.double.units_strictMono.monotone hnearest

/-- Infinity is at least any whole number. -/
lemma atLeast_infinity (hn : n ≤ 2 ^ 53) : AtLeast n (infinity false) := by
  have hlt : infinityMagnitude < signWord := by decide
  obtain ⟨m, hinfinity, hm⟩ := exists_units_eq hn
  refine ⟨isNegative_ofParts false hlt, by decide, ?_⟩
  rw [← hm, units, infinity, magnitude_ofParts false hlt, ← infinity_double]
  exact BinaryFormat.double.units_strictMono.monotone hinfinity

/-- A quotient of positive numbers, also of an infinite one, is at least a whole number which the
exact quotient is not below. -/
lemma atLeast_div (hn : n ≤ 2 ^ 53) (hx : 0 < x) (hy : 0 < y) (hfinite : y.isFinite = true)
    (h : n * y.units ≤ x.units) : AtLeast n (x / y) := by
  obtain ⟨hxn, hxs, -⟩ := pos_iff.1 hx
  obtain ⟨hyn, hys, hym⟩ := pos_iff.1 hy
  change AtLeast n (div x y)
  cases hxf : x.isFinite with
  | true =>
    have hdiv : div x y = ofRatio false x.units y.units := by
      simp [div, hxn, hxs, hyn, hys, hxf, hfinite, Nat.ne_of_gt hym]
    rw [hdiv]
    exact atLeast_ofRatio hn (units_pos hy) h
  | false =>
    have hdiv : div x y = infinity false := by
      simp [div, hxn, hxs, hyn, hys, hxf, hfinite]
    rw [hdiv]
    exact atLeast_infinity hn

/-- A whole number is at least itself. -/
lemma atLeast_ofNat (hn : n ≤ 2 ^ 53) : AtLeast n (ofNat n) :=
  atLeast_ofRatio hn Nat.one_pos (Nat.le_of_eq (Nat.mul_one n))

/-- What is at least a positive whole number is positive. -/
lemma AtLeast.pos (h : AtLeast n x) (hn : 0 < n) : 0 < x := by
  refine pos_iff.2 ⟨h.isNaN, h.isNegative, Nat.pos_of_ne_zero fun hm => ?_⟩
  have hzero : x.units = 0 := by
    rw [units, hm]
    rfl
  have hle := h.le_units
  rw [hzero] at hle
  exact absurd (Nat.mul_pos hn oneUnits_pos) (Nat.not_lt.2 hle)

/-- What is at least a whole number is so when it is rounded to whole numbers. -/
lemma AtLeast.toRound (h : AtLeast n x) (hn : n ≤ 2 ^ 53) : AtLeast n x.round := by
  unfold round
  split
  · rw [h.isNegative]
    refine atLeast_ofRatio hn Nat.one_pos ?_
    rw [Nat.mul_one, Rounding.halfUp, Nat.le_div_iff_mul_le (Nat.mul_pos Nat.two_pos oneUnits_pos)]
    have := h.le_units
    calc n * (2 * oneUnits)
      _ = 2 * (n * oneUnits) := Nat.mul_left_comm _ _ _
      _ ≤ 2 * x.units + oneUnits := by omega
  · rw [h.isNaN]
    exact h

/-- What is at least a whole number is so when it is cut to 32 bits. -/
lemma AtLeast.le_toWord32 (h : AtLeast n x) (hn : n < UInt32.size) : n ≤ x.toWord32.toNat := by
  have hsize : UInt32.size = 4294967296 := rfl
  have htruncate : n ≤ x.units / oneUnits := (Nat.le_div_iff_mul_le oneUnits_pos).2 h.le_units
  have hclamped : (n : Int) ≤ x.clampedInt 0 (UInt32.size - 1) ∧
      x.clampedInt 0 (UInt32.size - 1) ≤ UInt32.size - 1 := by
    simp only [clampedInt, truncate, h.isNaN, h.isNegative, Bool.false_eq_true, if_false]
    split <;> omega
  rw [toWord32, UInt32.toNat_ofNat_of_lt' (by omega)]
  omega

end Wayfinding.Binary64
