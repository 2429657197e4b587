import Mathlib.Order.Monotone.Basic
import Mathlib.Tactic.Ring
import Wayfinding.Number.Rounding

/-!
# Magnitudes of a binary format

A magnitude `k * 2 ^ fractionBits + q` stands for `q * 2 ^ k` smallest subnormal numbers, as long as
`q` fits: it has at most one bit more than the fraction and, unless `k` is zero, no less. This
covers every magnitude, and also the ones that rounding up comes to. So the next magnitude is the
next multiple, values grow with their magnitudes, and rounding does not pass a magnitude whose value
is not above the quotient.

Main lemmas: `BinaryFormat.units_shift`, `BinaryFormat.units_strictMono`,
`BinaryFormat.le_nearest`, `BinaryFormat.nearest_le`, `BinaryFormat.nearest_congr`,
`BinaryFormat.exists_units`.
-/

namespace Wayfinding

namespace Rounding

/-- Rounding goes down to no less than the whole quotient. -/
lemma div_le_halfEven (num den : Nat) : num / den ≤ halfEven num den := by
  simp only [halfEven]
  split
  · exact Nat.le_refl _
  · split
    · exact Nat.le_succ _
    · exact Nat.le_add_right _ _

/-- Rounding goes up by no more than one. -/
lemma halfEven_le (num den : Nat) : halfEven num den ≤ num / den + 1 := by
  simp only [halfEven]
  split
  · exact Nat.le_succ _
  · split
    · exact Nat.le_refl _
    · omega

/-- A quotient may be expanded before it is rounded. -/
lemma halfEven_mul_left {c : Nat} (hc : 0 < c) (num den : Nat) :
    halfEven (c * num) (c * den) = halfEven num den := by
  have htwice : 2 * (c * num % (c * den)) = c * (2 * (num % den)) := by
    rw [Nat.mul_mod_mul_left]
    ring
  simp only [halfEven, htwice, Nat.mul_div_mul_left _ _ hc, Nat.mul_lt_mul_left hc]

end Rounding

namespace BinaryFormat

variable {f : BinaryFormat} {k q m num den : Nat}

/-- The multiple `q` and the shift `k` belong to the magnitude `k * 2 ^ fractionBits + q`. -/
structure Fits (f : BinaryFormat) (k q : Nat) : Prop where
  le : q ≤ 2 * 2 ^ f.fractionBits
  normal : k = 0 ∨ 2 ^ f.fractionBits ≤ q

/-- The units of a magnitude are its significand, shifted by its exponent. -/
lemma units_shift (h : f.Fits k q) : f.units (k * 2 ^ f.fractionBits + q) = q * 2 ^ k := by
  have hpos : 0 < 2 ^ f.fractionBits := Nat.two_pow_pos _
  simp only [units, Nat.pow_eq]
  rw [Nat.add_comm, Nat.add_mul_div_right _ _ hpos, Nat.add_mul_mod_self_right]
  obtain hlt | hge := Nat.lt_or_ge q (2 ^ f.fractionBits)
  · obtain rfl : k = 0 := h.normal.resolve_right (Nat.not_le.2 hlt)
    simp [Nat.div_eq_of_lt hlt, Nat.mod_eq_of_lt hlt]
  · obtain ⟨rest, rfl⟩ := Nat.exists_eq_add_of_le hge
    obtain hrest | hrest := Nat.lt_or_ge rest (2 ^ f.fractionBits)
    · have hdiv : (2 ^ f.fractionBits + rest) / 2 ^ f.fractionBits = 1 := by
        rw [Nat.add_div_left _ hpos, Nat.div_eq_of_lt hrest]
      rw [hdiv, Nat.add_mod_left, Nat.mod_eq_of_lt hrest, if_neg (by omega),
        Nat.add_sub_cancel_left]
    · -- rounding up has come to the next power of two
      obtain rfl : rest = 2 ^ f.fractionBits := Nat.le_antisymm (by have := h.le; omega) hrest
      rw [← Nat.two_mul, Nat.mul_div_cancel _ hpos, Nat.mul_mod_left, if_neg (by omega),
        show 2 + k - 1 = k + 1 by omega, Nat.pow_succ]
      ring

/-- A magnitude consists of an exponent and a significand. -/
lemma exists_fits (f : BinaryFormat) (m : Nat) :
    ∃ k q, m = k * 2 ^ f.fractionBits + q ∧ q < 2 * 2 ^ f.fractionBits ∧ f.Fits k q := by
  have hpos : 0 < 2 ^ f.fractionBits := Nat.two_pow_pos _
  have hdiv := Nat.div_add_mod' m (2 ^ f.fractionBits)
  have hmod := Nat.mod_lt m hpos
  cases he : m / 2 ^ f.fractionBits with
  | zero =>
    rw [he, Nat.zero_mul, Nat.zero_add] at hdiv
    exact ⟨0, m, by omega, by omega, by omega, .inl rfl⟩
  | succ k =>
    rw [he, Nat.succ_mul] at hdiv
    exact ⟨k, 2 ^ f.fractionBits + m % 2 ^ f.fractionBits, by omega, by omega, by omega,
      .inr (Nat.le_add_right _ _)⟩

/-- The next magnitude is at least a multiple more. -/
lemma units_succ_ge (h : f.Fits k q) :
    (q + 1) * 2 ^ k ≤ f.units (k * 2 ^ f.fractionBits + q + 1) := by
  have hpos : 0 < 2 ^ f.fractionBits := Nat.two_pow_pos _
  obtain hlt | heq := Nat.lt_or_eq_of_le h.le
  · have hfits : f.Fits k (q + 1) := ⟨hlt, h.normal.imp_right Nat.le_succ_of_le⟩
    rw [Nat.add_assoc, units_shift hfits]
  · have hfits : f.Fits (k + 1) (2 ^ f.fractionBits + 1) := ⟨by omega, .inr (Nat.le_succ _)⟩
    have hm : k * 2 ^ f.fractionBits + q + 1
        = (k + 1) * 2 ^ f.fractionBits + (2 ^ f.fractionBits + 1) := by
      rw [heq]
      ring
    rw [hm, units_shift hfits, heq, Nat.pow_succ]
    calc (2 * 2 ^ f.fractionBits + 1) * 2 ^ k
      _ ≤ (2 * 2 ^ f.fractionBits + 2) * 2 ^ k := Nat.mul_le_mul_right _ (Nat.le_succ _)
      _ = (2 ^ f.fractionBits + 1) * (2 ^ k * 2) := by ring

/-- A larger magnitude stands for more units. -/
lemma units_strictMono (f : BinaryFormat) : StrictMono f.units := by
  refine strictMono_nat_of_lt_succ fun m => ?_
  obtain ⟨k, q, rfl, -, hfits⟩ := f.exists_fits m
  calc f.units (k * 2 ^ f.fractionBits + q)
    _ = q * 2 ^ k := units_shift hfits
    _ < (q + 1) * 2 ^ k := Nat.mul_lt_mul_of_pos_right (Nat.lt_succ_self q) (Nat.two_pow_pos k)
    _ ≤ f.units (k * 2 ^ f.fractionBits + q + 1) := units_succ_ge hfits

/-- With the shift that rounding takes, the whole part of a quotient has the bits of a fraction and
one more. -/
lemma div_shift_bounds (v bits : Nat) :
    v / 2 ^ (v.log2 - bits) < 2 * 2 ^ bits ∧
      (v.log2 - bits = 0 ∨ 2 ^ bits ≤ v / 2 ^ (v.log2 - bits)) := by
  have hpos : 0 < 2 ^ (v.log2 - bits) := Nat.two_pow_pos _
  constructor
  · rw [Nat.div_lt_iff_lt_mul hpos, ← Nat.pow_succ', ← Nat.pow_add]
    calc v
      _ < 2 ^ (v.log2 + 1) := Nat.lt_log2_self
      _ ≤ 2 ^ (bits + 1 + (v.log2 - bits)) := Nat.pow_le_pow_right (by decide) (by omega)
  · obtain hlt | hle := Nat.lt_or_ge bits v.log2
    · have hne : v ≠ 0 := by
        rintro rfl
        simp at hlt
      refine .inr ?_
      rw [Nat.le_div_iff_mul_le hpos, ← Nat.pow_add, Nat.add_sub_cancel' (Nat.le_of_lt hlt)]
      exact Nat.log2_self_le hne
    · exact .inl (Nat.sub_eq_zero_of_le hle)

/-- The rounded significand fits its exponent. -/
lemma fits_halfEven (f : BinaryFormat) (scaled den : Nat) :
    f.Fits ((scaled / den).log2 - f.fractionBits)
      (Rounding.halfEven scaled (den * 2 ^ ((scaled / den).log2 - f.fractionBits))) := by
  obtain ⟨hlt, hnormal⟩ := div_shift_bounds (scaled / den) f.fractionBits
  rw [Nat.div_div_eq_div_mul] at hlt hnormal
  constructor
  · exact Nat.le_trans (Rounding.halfEven_le _ _) hlt
  · exact hnormal.imp_right fun hge => Nat.le_trans hge (Rounding.div_le_halfEven _ _)

/-- Rounding does not pass a magnitude whose value is not above the quotient. -/
lemma le_nearest (hden : 0 < den) (hm : m ≤ f.infinity) (h : f.units m * den ≤ num * f.one) :
    m ≤ f.nearest num den := by
  simp only [nearest, Nat.pow_eq]
  refine Nat.le_min.2 ⟨hm, ?_⟩
  have hfits := f.fits_halfEven (num * f.one) den
  generalize hk : (num * f.one / den).log2 - f.fractionBits = k at hfits ⊢
  generalize hq : Rounding.halfEven (num * f.one) (den * 2 ^ k) = q at hfits ⊢
  by_contra! hlt
  have hle : (q + 1) * 2 ^ k ≤ f.units m :=
    Nat.le_trans (units_succ_ge hfits) (f.units_strictMono.monotone hlt)
  have hdiv : q + 1 ≤ num * f.one / (den * 2 ^ k) := by
    rw [Nat.le_div_iff_mul_le (Nat.mul_pos hden (Nat.two_pow_pos k))]
    calc (q + 1) * (den * 2 ^ k)
      _ = (q + 1) * 2 ^ k * den := by ring
      _ ≤ f.units m * den := Nat.mul_le_mul_right den hle
      _ ≤ num * f.one := h
  have := Rounding.div_le_halfEven (num * f.one) (den * 2 ^ k)
  omega

/-- Rounding does not pass a magnitude whose value is not below the quotient. -/
lemma nearest_le (hden : 0 < den) (h : num * f.one ≤ f.units m * den) :
    f.nearest num den ≤ m := by
  simp only [nearest, Nat.pow_eq]
  refine Nat.le_trans (Nat.min_le_right _ _) ?_
  obtain ⟨hlt, hnormal⟩ := div_shift_bounds (num * f.one / den) f.fractionBits
  rw [Nat.div_div_eq_div_mul] at hlt hnormal
  have hfits := f.fits_halfEven (num * f.one) den
  generalize (num * f.one / den).log2 - f.fractionBits = k at hlt hnormal hfits ⊢
  have hpos : 0 < den * 2 ^ k := Nat.mul_pos hden (Nat.two_pow_pos k)
  have hfloor : f.Fits k (num * f.one / (den * 2 ^ k)) := ⟨Nat.le_of_lt hlt, hnormal⟩
  have hle : num * f.one / (den * 2 ^ k) * (den * 2 ^ k) ≤ num * f.one := Nat.div_mul_le_self _ _
  have heq := @Rounding.halfEven_mul (num * f.one / (den * 2 ^ k)) _ hpos
  have hup := Rounding.halfEven_le (num * f.one) (den * 2 ^ k)
  have hshift (c : Nat) : c * 2 ^ k * den = c * (den * 2 ^ k) := by ring
  generalize num * f.one / (den * 2 ^ k) = c at hfloor hle heq hup
  by_contra! hgt
  obtain hup | hup := Nat.lt_or_eq_of_le hup
  · -- rounded down, the quotient is not below the next magnitude
    have hunits : f.units m < c * 2 ^ k := by
      rw [← units_shift hfloor]
      exact f.units_strictMono (Nat.lt_of_lt_of_le hgt (by omega))
    have hlt := Nat.mul_lt_mul_of_pos_right hunits hden
    rw [hshift] at hlt
    omega
  · -- rounded up, it is not a whole multiple
    have hunits : f.units m ≤ c * 2 ^ k := by
      rw [← units_shift hfloor]
      exact f.units_strictMono.monotone (by omega)
    have hge := Nat.mul_le_mul_right den hunits
    rw [hshift] at hge
    have hexact : num * f.one = c * (den * 2 ^ k) := Nat.le_antisymm (Nat.le_trans h hge) hle
    rw [hexact, heq] at hup
    omega

/-- The magnitude nearest to a value that is represented is that of this value. -/
lemma nearest_eq (hden : 0 < den) (hm : m ≤ f.infinity) (h : f.units m * den = num * f.one) :
    f.nearest num den = m :=
  Nat.le_antisymm (nearest_le hden (Nat.le_of_eq h.symm)) (le_nearest hden hm (Nat.le_of_eq h))

/-- A quotient may be expanded before the nearest magnitude is taken. -/
lemma nearest_mul_left {c : Nat} (hc : 0 < c) (num den : Nat) :
    f.nearest (c * num) (c * den) = f.nearest num den := by
  simp only [nearest, Nat.mul_assoc, Nat.mul_div_mul_left _ _ hc, Rounding.halfEven_mul_left hc]

/-- Rounding depends only on the quotient. -/
lemma nearest_congr {num' den' : Nat} (hden : 0 < den) (hden' : 0 < den')
    (h : num * den' = num' * den) : f.nearest num den = f.nearest num' den' := by
  calc f.nearest num den
    _ = f.nearest (den' * num) (den' * den) := (nearest_mul_left hden' num den).symm
    _ = f.nearest (den * num') (den * den') := by
      rw [Nat.mul_comm den' num, h, Nat.mul_comm num' den, Nat.mul_comm den' den]
    _ = f.nearest num' den' := nearest_mul_left hden num' den'

/-- A number with no more bits than a magnitude has, shifted, is the value of a magnitude. -/
lemma exists_units (f : BinaryFormat) {v : Nat} (hv : v ≤ 2 * 2 ^ f.fractionBits) (s : Nat) :
    ∃ m ≤ (s + 2) * 2 ^ f.fractionBits, f.units m = v * 2 ^ s := by
  induction s generalizing v with
  | zero =>
    have hfits : f.Fits 0 v := ⟨hv, .inl rfl⟩
    exact ⟨_, by omega, units_shift hfits⟩
  | succ s ih =>
    obtain hlt | hge := Nat.lt_or_ge v (2 ^ f.fractionBits)
    · obtain ⟨m, hm, hunits⟩ := ih (v := 2 * v) (by omega)
      refine ⟨m, Nat.le_trans hm (Nat.mul_le_mul_right _ (Nat.le_succ _)), ?_⟩
      rw [hunits, Nat.pow_succ]
      ring
    · have hfits : f.Fits (s + 1) v := ⟨hv, .inr hge⟩
      refine ⟨_, ?_, units_shift hfits⟩
      calc (s + 1) * 2 ^ f.fractionBits + v
        _ ≤ (s + 1) * 2 ^ f.fractionBits + 2 * 2 ^ f.fractionBits := Nat.add_le_add_left hv _
        _ = (s + 1 + 2) * 2 ^ f.fractionBits := by ring

end BinaryFormat

end Wayfinding
