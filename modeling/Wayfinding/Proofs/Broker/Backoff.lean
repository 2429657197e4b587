import Wayfinding.Broker.Backoff
import Mathlib.Algebra.Group.Nat.Defs
import Mathlib.Order.Monotone.Basic

/-!
# Doubling pauses

The pause before a retry is computed in 64 bits: a power of two that has more bits is replaced by
the largest number, and a product that does not fit is cut to it. The maximum hides both. Up to its
lengthening, each pause is exactly twice the one before it until the maximum is reached, at whatever
retry that is. The only sum that could overflow is that of the pause and its lengthening, and it
fits if the maximum leaves room for a tenth of itself.

Main definitions: `Backoff.IsDraw`, `Backoff.Doubles`.
Main lemmas: `Backoff.min_mul_factor`, `Backoff.delay_succ`, `Backoff.add_lengthening_lt`,
`Backoff.doubles_of_lt`.
-/

namespace Wayfinding.Backoff

/-- A way of drawing numbers at random: a number below each positive bound. -/
def IsDraw (draw : Nat → Nat) : Prop := ∀ bound, 0 < bound → draw bound < bound

variable {draw : Nat → Nat} {attempt base maximum n : Nat}

/-! ### Powers of two in 64 bits -/

/-- A power of two below the 64th has 64 bits. -/
lemma two_pow_le_limit (h : n < 64) : 2 ^ n ≤ limit :=
  Nat.le_sub_one_of_lt (Nat.pow_lt_pow_right Nat.one_lt_two h)

/-- Any other one has more. -/
lemma limit_lt_two_pow (h : 64 ≤ n) : limit < 2 ^ n :=
  calc
    limit < 2 ^ 64 := by decide
    _ ≤ 2 ^ n := Nat.pow_le_pow_right Nat.two_pos h

/-- The factor is a power of two as long as that has 64 bits. -/
lemma factor_succ_of_lt (h : n < 64) : factor (n + 1) = 2 ^ n := by
  rw [factor, Nat.add_sub_cancel, if_pos h, Nat.one_shiftLeft]

/-- The factor is the largest number when the power of two does not have 64 bits. -/
lemma factor_succ_of_le (h : 64 ≤ n) : factor (n + 1) = limit := by
  rw [factor, Nat.add_sub_cancel, if_neg (Nat.not_lt.2 h)]

/-- The factor always has 64 bits. -/
lemma factor_le_limit (attempt : Nat) : factor attempt ≤ limit := by
  unfold factor
  split
  · next h =>
    rw [Nat.one_shiftLeft]
    exact two_pow_le_limit h
  · exact Nat.le_refl limit

/-- A product that is cut to 64 bits is the same with the factor as with the power of two that the
factor stands for. -/
lemma min_mul_factor (base n : Nat) :
    min (base * factor (n + 1)) limit = min (base * 2 ^ n) limit := by
  rcases Nat.lt_or_ge n 64 with h | h
  · rw [factor_succ_of_lt h]
  · -- neither factor is below the limit, so both products are zero or are cut
    rw [factor_succ_of_le h]
    rcases Nat.eq_zero_or_pos base with rfl | hbase
    · rw [Nat.zero_mul, Nat.zero_mul]
    · have hpow : limit ≤ base * 2 ^ n :=
        (limit_lt_two_pow h).le.trans (Nat.le_mul_of_pos_left _ hbase)
      rw [Nat.min_eq_right (Nat.le_mul_of_pos_left _ hbase), Nat.min_eq_right hpow]

/-! ### The pause without its lengthening -/

/-- Attempt zero is not delayed. -/
@[simp] lemma delay_zero : delay 0 base maximum = 0 := rfl

/-- The delay is the doubled base, cut to the maximum only. -/
lemma delay_succ (h : maximum ≤ limit) (base n : Nat) :
    delay (n + 1) base maximum = min (base * 2 ^ n) maximum :=
  calc
    delay (n + 1) base maximum = min (min (base * factor (n + 1)) limit) maximum :=
      if_neg n.succ_ne_zero
    _ = min (min (base * 2 ^ n) limit) maximum := by rw [min_mul_factor]
    _ = min (base * 2 ^ n) maximum := by rw [Nat.min_assoc, Nat.min_eq_right h]

/-- No delay is above the maximum. -/
lemma delay_le (attempt base maximum : Nat) : delay attempt base maximum ≤ maximum := by
  unfold delay
  split
  · exact Nat.zero_le _
  · exact Nat.min_le_right _ _

/-- A pause is twice the one before it, or the maximum. -/
lemma delay_double (h : maximum ≤ limit) (base n : Nat) :
    delay (n + 2) base maximum = min (2 * delay (n + 1) base maximum) maximum := by
  have hpow : base * 2 ^ (n + 1) = 2 * (base * 2 ^ n) := by
    rw [Nat.pow_succ', Nat.mul_left_comm]
  rw [delay_succ h, delay_succ h, hpow]
  omega

/-- Later attempts are not delayed for less. -/
lemma delay_monotone (h : maximum ≤ limit) (base : Nat) :
    Monotone fun attempt => delay attempt base maximum := by
  refine monotone_nat_of_le_succ fun attempt => ?_
  cases attempt with
  | zero => exact Nat.zero_le _
  | succ n =>
    have hle := delay_le (n + 1) base maximum
    rw [delay_double h]
    omega

/-! ### The pause with its lengthening -/

/-- A delay is lengthened by a tenth at most. -/
lemma lengthening_le (hdraw : IsDraw draw) (delay : Nat) :
    lengthening draw delay ≤ delay / 10 := by
  unfold lengthening
  split
  · next hrange => exact (hdraw _ hrange).le
  · exact Nat.zero_le _

/-- No delay is not lengthened. -/
lemma lengthening_zero (draw : Nat → Nat) : lengthening draw 0 = 0 := rfl

/-- Attempt zero pauses for nothing. -/
lemma total_zero (draw : Nat → Nat) (base maximum : Nat) : total draw 0 base maximum = 0 := by
  rw [total, delay_zero, lengthening_zero]

/-- The pause and its lengthening can be added without an overflow. -/
lemma add_lengthening_lt (hdraw : IsDraw draw) (h : maximum + maximum / 10 < UInt64.size)
    (attempt base : Nat) :
    delay attempt base maximum + lengthening draw (delay attempt base maximum) < UInt64.size := by
  have hle := delay_le attempt base maximum
  calc
    delay attempt base maximum + lengthening draw (delay attempt base maximum)
    _ ≤ delay attempt base maximum + delay attempt base maximum / 10 :=
      Nat.add_le_add_left (lengthening_le hdraw _) _
    _ ≤ maximum + maximum / 10 := Nat.add_le_add hle (Nat.div_le_div_right hle)
    _ < UInt64.size := h

/-- When both can be added, the pause is told and no overflow is reported. -/
lemma pause_eq_total (hdraw : IsDraw draw) (h : maximum + maximum / 10 < UInt64.size)
    (attempt base : Nat) :
    pause draw attempt base maximum = .ok (total draw attempt base maximum) :=
  if_pos (add_lengthening_lt hdraw h attempt base)

/-- The pauses before the retries double from a base up to a maximum, and are lengthened by at most
a tenth. Attempts are numbered from one on. -/
structure Doubles (draw : Nat → Nat) (base maximum : Nat) : Prop where
  /-- Attempt zero pauses for nothing. -/
  zero : total draw 0 base maximum = 0
  /-- Without its lengthening a pause is what it is without a limit to the numbers. -/
  eq_min : ∀ n, delay (n + 1) base maximum = min (base * 2 ^ n) maximum
  /-- The factor and the sum fit into 64 bits. -/
  fits : ∀ attempt, factor attempt < UInt64.size ∧
    delay attempt base maximum + lengthening draw (delay attempt base maximum) < UInt64.size
  /-- So the supervisor is told how long it pauses. -/
  told : ∀ attempt, pause draw attempt base maximum = .ok (total draw attempt base maximum)
  /-- The lengthening is at most a tenth. -/
  between : ∀ attempt, delay attempt base maximum ≤ total draw attempt base maximum ∧
    total draw attempt base maximum ≤
      delay attempt base maximum + delay attempt base maximum / 10
  /-- A later pause is not shorter. -/
  monotone : Monotone fun attempt => delay attempt base maximum
  capped : ∀ attempt, delay attempt base maximum ≤ maximum

/-- Whatever is drawn, the pauses double exactly up to a maximum that leaves room for a tenth of
itself. -/
theorem doubles_of_lt (hdraw : IsDraw draw) (h : maximum + maximum / 10 < UInt64.size) :
    Doubles draw base maximum := by
  have hmax : maximum ≤ limit :=
    Nat.le_sub_one_of_lt (Nat.lt_of_le_of_lt (Nat.le_add_right _ _) h)
  have hfits := add_lengthening_lt hdraw h
  refine ⟨total_zero draw base maximum, delay_succ hmax base,
    fun attempt => ⟨?_, hfits attempt base⟩, fun attempt => pause_eq_total hdraw h attempt base,
    fun attempt => ?_, delay_monotone hmax base, fun attempt => delay_le attempt base maximum⟩
  · exact Nat.lt_of_le_sub_one (by decide) (factor_le_limit attempt)
  · exact ⟨Nat.le_add_right _ _, Nat.add_le_add_left (lengthening_le hdraw _) _⟩

/-- The largest maximum that leaves room for a tenth of itself, and the largest base and draws. -/
theorem doubles_largest :
    IsDraw (· - 1) ∧
      16769767339735956014 + 16769767339735956014 / 10 < UInt64.size ∧
      Doubles (· - 1) limit 16769767339735956014 := by
  have hdraw : IsDraw (· - 1) := fun bound hbound => Nat.sub_one_lt_of_lt hbound
  have hroom : 16769767339735956014 + 16769767339735956014 / 10 < UInt64.size := by decide
  exact ⟨hdraw, hroom, doubles_of_lt hdraw hroom⟩

/-- The power of two has far more than 64 bits. -/
example : delay 200 (limit / 2) 5000 = 5000 := by decide

end Wayfinding.Backoff
