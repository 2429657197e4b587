import Mathlib.Algebra.Order.Field.Rat
import Mathlib.Algebra.Order.Ring.Cast
import Wayfinding.Proofs.Number.Bounds

/-!
# Exact values

A double-precision number stands for an exact number, for an infinity, or for no number at all, and
the two zeros for the same one. Comparing two of them, or taking the larger one, is the same as for
what they stand for; a product stands for the exact product, once that is rounded.

Main definitions: `Extended`, `Binary64.value`, `Extended.round`.
Main lemmas: `Binary64.lt_iff_value`, `Binary64.value_max`, `Binary64.value_mul`,
`Binary64.value_ofInt`, `Binary64.round_value`.
-/

namespace Wayfinding

/-- An exact number, an infinity, or no number. -/
inductive Extended where
  | number (q : ℚ)
  | infinity (negative : Bool)
  | nan
deriving DecidableEq

namespace Extended

/-- The exact product; an infinity times zero is no number. -/
def mul : Extended → Extended → Extended
  | nan, _ | _, nan => nan
  | number x, number y => number (x * y)
  | number x, infinity n | infinity n, number x =>
    if x = 0 then nan else infinity (decide (x < 0) != n)
  | infinity n, infinity n' => infinity (n != n')

/-- Whether one number is below another; what is no number is not. -/
def below : Extended → Extended → Bool
  | number x, number y => decide (x < y)
  | infinity n, number _ => n
  | number _, infinity n => !n
  | infinity n, infinity n' => n && !n'
  | nan, _ | _, nan => false

instance : LT Extended := ⟨fun x y => x.below y = true⟩

instance (x y : Extended) : Decidable (x < y) := inferInstanceAs (Decidable (x.below y = true))

/-- The larger of two numbers; what is no number gives way. -/
def max (x y : Extended) : Extended := if y = nan ∨ y < x then x else y

/-- A NaN absorbs whatever it is multiplied with. -/
lemma nan_mul (x : Extended) : nan.mul x = nan := by
  cases x <;> rfl

/-- Factors may change places. -/
protected lemma mul_comm (x y : Extended) : x.mul y = y.mul x := by
  cases x <;> cases y <;> simp [mul, mul_comm, bne_comm]

/-- Whatever is multiplied with a NaN becomes one. -/
lemma mul_nan (x : Extended) : x.mul nan = nan := by
  rw [Extended.mul_comm, nan_mul]

/-- Numbers are compared as such. -/
lemma number_lt {x y : ℚ} : number x < number y ↔ x < y := decide_eq_true_iff

/-- The larger of two numbers is one of them, the second one if they are equal. -/
lemma max_number (x y : ℚ) : (number x).max (number y) = number (Max.max y x) := by
  rw [Extended.max, max_def_lt, apply_ite number]
  simp [number_lt]

/-- A NaN is below nothing. -/
lemma not_nan_lt (x : Extended) : ¬nan < x := by
  cases x <;> exact nofun

/-- Nothing is below a NaN. -/
lemma not_lt_nan (x : Extended) : ¬x < nan := by
  cases x <;> exact nofun

/-- Of two values at most one is below the other. -/
lemma not_lt_of_lt {x y : Extended} (h : x < y) : ¬y < x := by
  cases x <;> cases y
  case number.number => exact fun h' => lt_asymm (number_lt.1 h) (number_lt.1 h')
  all_goals simp_all [LT.lt, below]

/-- What is below something is no NaN. -/
lemma ne_nan_of_lt {x y : Extended} (h : x < y) : y ≠ nan := by
  rintro rfl
  exact not_lt_nan x h

end Extended

namespace Binary64

variable {x y : Binary64}

/-- What a double-precision number stands for. -/
def value (x : Binary64) : Extended :=
  if x.isNaN then .nan
  else if x.isFinite then .number (x.signedUnits / oneUnits)
  else .infinity x.isNegative

end Binary64

/-- What the nearest double-precision number stands for, ties to even. -/
def Extended.round : Extended → Extended
  | number q => (Binary64.ofRatio (decide (q < 0)) q.num.natAbs q.den).value
  | x => x

namespace Binary64

variable {x y : Binary64}

/-! ### Kinds of numbers -/

/-- The bits of a NaN have no number as their value. -/
lemma value_of_isNaN (h : x.isNaN = true) : x.value = .nan := if_pos h

/-- What is finite is no NaN. -/
lemma isNaN_of_isFinite (h : x.isFinite = true) : x.isNaN = false :=
  decide_eq_false (Nat.not_lt.2 (Nat.le_of_lt (of_decide_eq_true h)))

/-- A finite number is a whole number of its smallest units. -/
lemma value_of_isFinite (h : x.isFinite = true) :
    x.value = .number (x.signedUnits / oneUnits) := by
  rw [value, isNaN_of_isFinite h, h]
  rfl

/-- What is neither finite nor a NaN is an infinity. -/
lemma value_of_infinite (hx : x.isNaN = false) (h : x.isFinite = false) :
    x.value = .infinity x.isNegative := by
  rw [value, hx, h]
  rfl

/-- What a word may denote. -/
inductive Kind (x : Binary64) : Prop where
  | nan : x.isNaN = true → Kind x
  | finite : x.isFinite = true → Kind x
  | infinite : x.isNaN = false → x.isFinite = false → Kind x

/-- Bits stand for a NaN, an infinity or a finite number. -/
lemma kind (x : Binary64) : x.Kind := by
  cases hx : x.isNaN with
  | true => exact .nan hx
  | false =>
    cases hf : x.isFinite with
    | true => exact .finite hf
    | false => exact .infinite hx hf

/-- The value is a NaN for the bits of a NaN only. -/
lemma value_eq_nan_iff : x.value = .nan ↔ x.isNaN = true := by
  cases x.kind with
  | nan hx => exact iff_of_true (value_of_isNaN hx) hx
  | finite hx =>
    rw [value_of_isFinite hx, isNaN_of_isFinite hx]
    exact iff_of_false nofun nofun
  | infinite hx hf =>
    rw [value_of_infinite hx hf, hx]
    exact iff_of_false nofun nofun

/-- The infinities share the largest magnitude that is no NaN. -/
lemma magnitude_of_infinite (hx : x.isNaN = false) (h : x.isFinite = false) :
    x.magnitude = infinityMagnitude :=
  Nat.le_antisymm (Nat.not_lt.1 (of_decide_eq_false hx)) (Nat.not_lt.1 (of_decide_eq_false h))

/-- The magnitude of a finite number is below that of the infinities. -/
lemma magnitude_lt (h : x.isFinite = true) : x.magnitude < infinityMagnitude := of_decide_eq_true h

/-! ### Order -/

/-- No units are the magnitude zero. -/
lemma units_eq_zero : x.units = 0 ↔ x.magnitude = 0 :=
  BinaryFormat.double.units_strictMono.injective.eq_iff' rfl

/-- Units grow with the keys. -/
lemma signedUnits_lt : x.signedUnits < y.signedUnits ↔ x.key < y.key := by
  have hle := @units_le_units x y
  have hge := @units_le_units y x
  have hx := @units_eq_zero x
  have hy := @units_eq_zero y
  unfold signedUnits key
  cases x.isNegative <;> cases y.isNegative <;> simp only [Bool.false_eq_true, if_true, if_false]
  all_goals omega

/-- One has units, also as a rational number. -/
lemma oneUnits_cast_pos : (0 : ℚ) < oneUnits := Nat.cast_pos.2 oneUnits_pos

/-- The key of a finite number lies between those of the infinities. -/
lemma key_bounds (h : x.isFinite = true) :
    -(infinityMagnitude : Int) < x.key ∧ x.key < infinityMagnitude := by
  have hlt := magnitude_lt h
  unfold key
  split <;> omega

/-- The infinities are at the ends of the order. -/
lemma key_of_infinite (hx : x.isNaN = false) (h : x.isFinite = false) :
    x.key = if x.isNegative then -(infinityMagnitude : Int) else infinityMagnitude := by
  rw [key, magnitude_of_infinite hx h]

/-- A NaN is not compared. -/
lemma not_lt_of_isNaN (h : x.isNaN = true ∨ y.isNaN = true) : ¬x < y := by
  rintro ⟨hx, hy, -⟩
  simp [hx, hy] at h

/-- What is no NaN is compared by its key. -/
lemma lt_iff_key (hx : x.isNaN = false) (hy : y.isNaN = false) : x < y ↔ x.key < y.key := by
  simp [lt_iff, hx, hy]

/-- The order of double-precision numbers is that of what they stand for. -/
lemma lt_iff_value : x < y ↔ x.value < y.value := by
  have hpos : 0 < infinityMagnitude := by decide
  cases x.kind with
  | nan hx =>
    rw [value_of_isNaN hx]
    exact iff_of_false (not_lt_of_isNaN (.inl hx)) (Extended.not_nan_lt _)
  | finite hx =>
    have hbounds := key_bounds hx
    rw [value_of_isFinite hx]
    cases y.kind with
    | nan hy =>
      rw [value_of_isNaN hy]
      exact iff_of_false (not_lt_of_isNaN (.inr hy)) (Extended.not_lt_nan _)
    | finite hy =>
      rw [lt_iff_key (isNaN_of_isFinite hx) (isNaN_of_isFinite hy), ← signedUnits_lt,
        value_of_isFinite hy, Extended.number_lt, div_lt_div_iff_of_pos_right oneUnits_cast_pos,
        Int.cast_lt]
    | infinite hy hyf =>
      rw [lt_iff_key (isNaN_of_isFinite hx) hy, key_of_infinite hy hyf, value_of_infinite hy hyf]
      cases y.isNegative with
      | true => exact iff_of_false (by simp; omega) nofun
      | false => exact iff_of_true (by simp; omega) rfl
  | infinite hx hxf =>
    rw [value_of_infinite hx hxf]
    cases y.kind with
    | nan hy =>
      rw [value_of_isNaN hy]
      exact iff_of_false (not_lt_of_isNaN (.inr hy)) (Extended.not_lt_nan _)
    | finite hy =>
      have hbounds := key_bounds hy
      rw [lt_iff_key hx (isNaN_of_isFinite hy), key_of_infinite hx hxf, value_of_isFinite hy]
      cases x.isNegative with
      | true => exact iff_of_true (by simp; omega) rfl
      | false => exact iff_of_false (by simp; omega) nofun
    | infinite hy hyf =>
      rw [lt_iff_key hx hy, key_of_infinite hx hxf, key_of_infinite hy hyf,
        value_of_infinite hy hyf]
      cases x.isNegative <;> cases y.isNegative
      all_goals
        change _ ↔ _ = true
        simp [Extended.below, hpos]

/-- The larger of two numbers has the larger value. -/
lemma value_max (x y : Binary64) : (x.max y).value = x.value.max y.value := by
  have hlt := @lt_iff_value y x
  have hnan := @value_eq_nan_iff y
  by_cases hy : y.isNaN = true
  · rw [max, if_pos hy, Extended.max, if_pos (.inl (hnan.2 hy))]
  · rw [max_eq_ite (Bool.not_eq_true _ ▸ hy), Extended.max]
    by_cases hyx : y < x
    · rw [if_pos hyx, if_pos (.inr (hlt.1 hyx))]
    · rw [if_neg hyx, if_neg]
      rintro (h | h)
      · exact hy (hnan.1 h)
      · exact hyx (hlt.2 h)

/-! ### Rounding -/

/-- Both zeros have the value zero. -/
lemma value_ofParts_zero (negative : Bool) : (ofParts negative 0).value = .number 0 := by
  have hfinite : (ofParts negative 0).isFinite = true := by
    cases negative <;> decide
  have hunits : (ofParts negative 0).signedUnits = 0 := by
    cases negative <;> decide
  rw [value_of_isFinite hfinite, hunits, Int.cast_zero, zero_div]

/-- The number zero has the value zero. -/
lemma value_zero : value 0 = .number 0 := value_ofParts_zero false

/-- Nothing is nearest to zero but itself. -/
lemma nearest_zero (den : Nat) : BinaryFormat.double.nearest 0 den = 0 := by
  simp [BinaryFormat.nearest, Rounding.halfEven]

/-- A quotient is rounded as its exact value is. -/
lemma value_ofRatio (negative : Bool) (num : Nat) {den : Nat} (hden : 0 < den) :
    (ofRatio negative num den).value =
      Extended.round (.number ((if negative then -(num : ℤ) else num : ℤ) / den)) := by
  have hcast : (0 : ℚ) < den := Nat.cast_pos.2 hden
  generalize hq : (((if negative then -(num : ℤ) else num : ℤ) : ℚ) / den) = q
  have hcross : (if negative then -(num : ℤ) else num) * q.den = q.num * den := by
    have hdiv := hq.trans (Rat.num_div_den q).symm
    rw [div_eq_div_iff hcast.ne' (Nat.cast_ne_zero.2 q.den_nz)] at hdiv
    exact_mod_cast hdiv
  have habs : num * q.den = q.num.natAbs * den := by
    have h := congrArg Int.natAbs hcross
    rw [Int.natAbs_mul, Int.natAbs_mul] at h
    cases negative <;> simpa using h
  have hnearest := BinaryFormat.nearest_congr (f := .double) hden q.den_pos habs
  change (ofParts negative _).value = (ofParts (decide (q < 0)) _).value
  rw [← hnearest]
  obtain rfl | hnum := Nat.eq_zero_or_pos num
  · rw [nearest_zero, value_ofParts_zero, value_ofParts_zero]
  · have hsign : decide (q < 0) = negative := by
      rw [Bool.eq_iff_iff, decide_eq_true_iff, ← hq, div_lt_iff₀ hcast, zero_mul, Int.cast_lt_zero]
      cases negative with
      | true => simpa using hnum
      | false => simp
    rw [hsign]

/-- An infinity has the value that it is named for. -/
lemma value_infinity (negative : Bool) : (infinity negative).value = .infinity negative := by
  cases negative <;> decide +kernel

/-- An infinity is no zero. -/
lemma infinityMagnitude_ne_zero : infinityMagnitude ≠ 0 := by decide

/-- A NaN that is made quiet stays one. -/
lemma isNaN_quiet (h : x.isNaN = true) : x.quiet.isNaN = true := by
  have hlt : infinityMagnitude < x.magnitude := of_decide_eq_true h
  refine decide_eq_true (Nat.lt_of_lt_of_le hlt ?_)
  have hsign : signWord = 2 ^ 63 := by decide
  change x.bits.toNat % signWord ≤ (x.bits ||| 0x0008000000000000).toNat % signWord
  rw [hsign, UInt64.toNat_or, Nat.or_mod_two_pow]
  exact Nat.left_le_or

/-- Unless it is a zero, a number is negative if its units are. -/
lemma signedUnits_neg_iff (h : x.magnitude ≠ 0) : x.signedUnits < 0 ↔ x.isNegative = true := by
  have hunits := mt units_eq_zero.1 h
  unfold signedUnits
  cases x.isNegative with
  | true => simpa using Nat.pos_of_ne_zero hunits
  | false => simp

/-- No signed units are the magnitude zero. -/
lemma signedUnits_eq_zero : x.signedUnits = 0 ↔ x.magnitude = 0 := by
  rw [← units_eq_zero]
  unfold signedUnits
  split <;> omega

/-- An infinity times a finite number. -/
lemma value_mul_infinity (h : x.isFinite = true) (negative : Bool) :
    x.value.mul (.infinity negative) =
      if x.magnitude = 0 then .nan else .infinity (x.isNegative != negative) := by
  have hzero : (x.signedUnits / oneUnits : ℚ) = 0 ↔ x.magnitude = 0 := by
    rw [div_eq_zero_iff, or_iff_left oneUnits_cast_pos.ne', Int.cast_eq_zero, signedUnits_eq_zero]
  rw [value_of_isFinite h]
  change (if _ then _ else _) = _
  by_cases hm : x.magnitude = 0
  · rw [if_pos (hzero.2 hm), if_pos hm]
  · have hneg : decide ((x.signedUnits / oneUnits : ℚ) < 0) = x.isNegative := by
      rw [Bool.eq_iff_iff, decide_eq_true_iff, div_lt_iff₀ oneUnits_cast_pos, zero_mul,
        Int.cast_lt_zero, signedUnits_neg_iff hm]
    rw [if_neg (mt hzero.1 hm), if_neg hm, hneg]

/-- A product of finite numbers, counted in smallest subnormal numbers. -/
lemma cast_mul_units (x y : Binary64) :
    (((if x.isNegative != y.isNegative then -((x.units * y.units : ℕ) : ℤ)
      else (x.units * y.units : ℕ) : ℤ) : ℚ) / (oneUnits * oneUnits : ℕ)) =
      x.signedUnits / oneUnits * (y.signedUnits / oneUnits) := by
  rw [div_mul_div_comm, Nat.cast_mul oneUnits]
  congr 1
  unfold signedUnits
  cases x.isNegative <;> cases y.isNegative <;> simp

/-- A product with a NaN on the right is that NaN. -/
lemma mul_of_isNaN (hx : x.isNaN = false) (hy : y.isNaN = true) : x * y = y.quiet := by
  change mul x y = _
  simp [mul, hx, hy]

/-- The product of finite numbers is the rounded product of their units. -/
lemma mul_of_isFinite (hx : x.isFinite = true) (hy : y.isFinite = true) :
    x * y = ofRatio (x.isNegative != y.isNegative) (x.units * y.units) (oneUnits * oneUnits) := by
  change mul x y = _
  simp [mul, isNaN_of_isFinite hx, isNaN_of_isFinite hy, hx, hy]

/-- A product with an infinity. -/
lemma value_mul_of_infinite (hx : x.isNaN = false) (hy : y.isNaN = false)
    (h : x.isFinite = false ∨ y.isFinite = false) :
    (x * y).value = if x.magnitude = 0 ∨ y.magnitude = 0 then .nan
      else .infinity (x.isNegative != y.isNegative) := by
  have hmul : x * y = if x.magnitude = 0 ∨ y.magnitude = 0 then invalid
      else infinity (x.isNegative != y.isNegative) := by
    change mul x y = _
    obtain h | h := h <;> simp [mul, hx, hy, h]
  have hinvalid : invalid.value = .nan := value_of_isNaN (by decide)
  rw [hmul, apply_ite value, hinvalid, value_infinity]

/-- A product stands for the exact product, rounded. -/
lemma value_mul (x y : Binary64) : (x * y).value = (x.value.mul y.value).round := by
  cases x.kind with
  | nan hx =>
    have hmul : x * y = x.quiet := if_pos hx
    rw [hmul, value_of_isNaN (isNaN_quiet hx), value_of_isNaN hx, Extended.nan_mul]
    rfl
  | finite hx =>
    cases y.kind with
    | nan hy =>
      rw [mul_of_isNaN (isNaN_of_isFinite hx) hy, value_of_isNaN (isNaN_quiet hy),
        value_of_isNaN hy, Extended.mul_nan]
      rfl
    | finite hy =>
      rw [mul_of_isFinite hx hy, value_ofRatio _ _ (Nat.mul_pos oneUnits_pos oneUnits_pos),
        cast_mul_units, value_of_isFinite hx, value_of_isFinite hy]
      rfl
    | infinite hy hyf =>
      rw [value_mul_of_infinite (isNaN_of_isFinite hx) hy (.inr hyf), value_of_infinite hy hyf,
        value_mul_infinity hx, magnitude_of_infinite hy hyf]
      simp only [infinityMagnitude_ne_zero, or_false]
      split
      · rfl
      · rfl
  | infinite hx hxf =>
    cases y.kind with
    | nan hy =>
      rw [mul_of_isNaN hx hy, value_of_isNaN (isNaN_quiet hy), value_of_isNaN hy, Extended.mul_nan]
      rfl
    | finite hy =>
      rw [value_mul_of_infinite hx (isNaN_of_isFinite hy) (.inl hxf), value_of_infinite hx hxf,
        Extended.mul_comm, value_mul_infinity hy, magnitude_of_infinite hx hxf, bne_comm]
      simp only [infinityMagnitude_ne_zero, false_or]
      split
      · rfl
      · rfl
    | infinite hy hyf =>
      rw [value_mul_of_infinite hx hy (.inl hxf), value_of_infinite hx hxf,
        value_of_infinite hy hyf, magnitude_of_infinite hx hxf, magnitude_of_infinite hy hyf]
      simp only [infinityMagnitude_ne_zero, or_self]
      rfl

/-! ### Numbers that are not rounded -/

/-- Bits are put together again from their sign and their magnitude. -/
lemma ofParts_self (x : Binary64) : ofParts x.isNegative x.magnitude = x := by
  have hlt : x.magnitude < signWord := Nat.mod_lt _ (by decide)
  have hbits : (ofParts x.isNegative x.magnitude).bits = x.bits := by
    rw [← UInt64.toNat_inj, toNat_ofParts _ hlt]
    have hsize : x.bits.toNat < signWord + signWord := x.bits.toNat_lt
    unfold isNegative magnitude at *
    split
    case isTrue h =>
      have hge := of_decide_eq_true h
      rw [Nat.mod_eq_sub_mod hge, Nat.mod_eq_of_lt (by omega)]
      omega
    case isFalse h => exact Nat.mod_eq_of_lt (by simpa using h)
  exact congrArg Binary64.mk hbits

/-- A double-precision number is its own rounding. -/
lemma round_value (x : Binary64) : x.value.round = x.value := by
  cases x.kind with
  | nan hx =>
    rw [value_of_isNaN hx]
    rfl
  | finite hx =>
    have hnearest : BinaryFormat.double.nearest x.units oneUnits = x.magnitude :=
      BinaryFormat.nearest_eq oneUnits_pos (magnitude_le (isNaN_of_isFinite hx))
        (by rw [one_double]; rfl)
    have hself : ofRatio x.isNegative x.units oneUnits = x := by
      rw [ofRatio, hnearest, ofParts_self]
    calc x.value.round
      _ = Extended.round (.number (x.signedUnits / oneUnits)) := by rw [value_of_isFinite hx]
      _ = (ofRatio x.isNegative x.units oneUnits).value :=
        (value_ofRatio x.isNegative x.units oneUnits_pos).symm
      _ = x.value := by rw [hself]
  | infinite hx hf =>
    rw [value_of_infinite hx hf]
    rfl

/-- A whole number of at most 53 bits is represented exactly. -/
lemma value_ofInt {n : Int} (hn : n.natAbs ≤ 2 ^ 53) : (ofInt n).value = .number n := by
  obtain ⟨m, hm, hunits⟩ := BinaryFormat.double.exists_units hn 1074
  rw [← oneUnits_eq] at hunits
  have hlt : m < infinityMagnitude := Nat.lt_of_le_of_lt hm (by decide)
  have hnearest : BinaryFormat.double.nearest n.natAbs 1 = m :=
    BinaryFormat.nearest_eq Nat.one_pos (infinity_double ▸ Nat.le_of_lt hlt)
      (by rw [hunits, one_double, Nat.mul_one])
  have hmagnitude : (ofInt n).magnitude = m := (magnitude_ofRatio _ _ _).trans hnearest
  have hsigned : (ofInt n).signedUnits = n * oneUnits := by
    rw [signedUnits, units, hmagnitude, hunits, ofInt, isNegative_ofRatio, Nat.cast_mul]
    by_cases hneg : n < 0
    · rw [if_pos (decide_eq_true hneg), Int.ofNat_natAbs_of_nonpos (Int.le_of_lt hneg),
        Int.neg_mul, Int.neg_neg]
    · rw [if_neg (by simpa using hneg), Int.natAbs_of_nonneg (Int.not_lt.1 hneg)]
  rw [value_of_isFinite (decide_eq_true (hmagnitude ▸ hlt)), hsigned, Int.cast_mul,
    Int.cast_natCast, mul_div_cancel_right₀ _ oneUnits_cast_pos.ne']

end Binary64

end Wayfinding
