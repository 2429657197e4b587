import Mathlib.Order.Basic
import Wayfinding.Number.Binary64

/-!
# The order of numbers

A comparison with a NaN is false, whichever way round it is written. So one that holds says that
both sides are numbers, and one that fails does not say that the opposite holds.
-/

namespace Wayfinding.Binary64

variable {x y z : Binary64}

/-- Zero is no NaN. -/
@[simp] lemma isNaN_zero : isNaN 0 = false := rfl

/-- What is no NaN is at most itself. -/
protected lemma le_refl (h : x.isNaN = false) : x ≤ x := ⟨h, h, Int.le_refl _⟩

/-- What is below a number is at most this number. -/
protected lemma le_of_lt (h : x < y) : x ≤ y := ⟨h.1, h.2.1, Int.le_of_lt h.2.2⟩

/-- A number that is at most one that is at most a third is at most the third. -/
protected lemma le_trans (hxy : x ≤ y) (hyz : y ≤ z) : x ≤ z :=
  ⟨hxy.1, hyz.2.1, Int.le_trans hxy.2.2 hyz.2.2⟩

/-- A number that is below one that is at most a third is below the third. -/
protected lemma lt_of_lt_of_le (hxy : x < y) (hyz : y ≤ z) : x < z :=
  ⟨hxy.1, hyz.2.1, Int.lt_of_lt_of_le hxy.2.2 hyz.2.2⟩

/-- Nothing that is at least a number is below it. -/
protected lemma not_lt_of_le (h : x ≤ y) : ¬y < x :=
  fun hlt => Int.not_lt.mpr h.2.2 hlt.2.2

/-- Without NaNs, what is not above is at most. -/
protected lemma le_of_not_lt (hx : x.isNaN = false) (hy : y.isNaN = false) (h : ¬y < x) :
    x ≤ y :=
  ⟨hx, hy, Int.not_lt.mp fun hkey => h ⟨hy, hx, hkey⟩⟩

/-- The larger of two numbers is the second one unless that is below the first. -/
lemma max_eq_ite (hy : y.isNaN = false) : x.max y = if y < x then x else y := by
  by_cases hx : x.isNaN = true
  · have hlt : ¬y < x := fun h => by simp [h.2.1] at hx
    simp [max, hx, hy, hlt]
  · simp [max, hx, hy]

/-- The larger of two values is no NaN unless both are. -/
lemma isNaN_max (hy : y.isNaN = false) : (x.max y).isNaN = false := by
  rw [max_eq_ite hy]
  split
  case isTrue hlt => exact hlt.2.1
  case isFalse => exact hy

/-- The larger of two numbers is at least the second one. -/
lemma le_max_right (hy : y.isNaN = false) : y ≤ x.max y := by
  rw [max_eq_ite hy]
  split
  case isTrue hlt => exact Binary64.le_of_lt hlt
  case isFalse => exact Binary64.le_refl hy

/-- The larger of two numbers is at least the first one. -/
lemma le_max_left (hx : x.isNaN = false) (hy : y.isNaN = false) : x ≤ x.max y := by
  rw [max_eq_ite hy]
  split
  case isTrue => exact Binary64.le_refl hx
  case isFalse hlt => exact Binary64.le_of_not_lt hx hy hlt

/-- The larger of two numbers is no larger than what neither of them is above. -/
lemma max_le_of_not_lt (hyz : y ≤ z) (hx : ¬z < x) : x.max y ≤ z := by
  rw [max_eq_ite hyz.1]
  split
  case isTrue hlt => exact Binary64.le_of_not_lt hlt.2.1 hyz.2.1 hx
  case isFalse => exact hyz

end Wayfinding.Binary64
