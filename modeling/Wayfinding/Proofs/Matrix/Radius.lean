import Wayfinding.Matrix.Radius
import Wayfinding.Proofs.Number.Extended
import Wayfinding.Proofs.Road.Divisors

/-!
# The search radius in exact numbers

A request may ask for any speeds and any coefficient, also for infinite or negative ones and for
what is no number. The search radius is a number all the same, between zero and the ceiling of the
mode. The formula for it can be read in double-precision numbers, as it is computed, and in exact
numbers with infinities, with or without rounding. What the radius stands for is what the formula
gives when each product is rounded; so it is the exact radius if the products need no rounding.

Main definitions: `Arithmetic`, `MatrixRequest.radiusIn`, `MatrixRequest.Gauges`.
Main statement: `Settings.Valid.gauges_radius`.
-/

namespace Wayfinding

/-- What a radius can be computed with. -/
structure Arithmetic (α : Type) where
  zero : α
  ofInt : ℤ → α
  mul : α → α → α
  max : α → α → α
  below : α → α → Bool

namespace Arithmetic

/-- The arithmetic of the program. -/
def double : Arithmetic Binary64 where
  zero := 0
  ofInt := .ofInt
  mul := (· * ·)
  max := .max
  below x y := decide (x < y)

/-- Exact numbers with infinities, each product of which is rounded by a function. -/
def extended (round : Extended → Extended) : Arithmetic Extended where
  zero := .number 0
  ofInt n := .number n
  mul x y := round (x.mul y)
  max := .max
  below := Extended.below

/-- Nothing is rounded. -/
def exact : Arithmetic Extended := extended id

end Arithmetic

namespace MatrixRequest

variable {requested average coefficient ceiling : Binary64} {round : Extended → Extended}
  {seconds : ℤ} {v w c m : ℚ}

/-- The search radius for a duration in seconds, the requested speed and the average one, a
coefficient and a ceiling. -/
def radiusIn {α : Type} (A : Arithmetic α) (seconds : ℤ)
    (requested average coefficient ceiling : α) : α :=
  let distance :=
    A.max (A.mul (A.mul (A.ofInt seconds) (A.max requested average)) coefficient) A.zero
  if A.below ceiling distance then ceiling else distance

/-- What the formula gives for values of double-precision numbers. -/
def radiusOfValues (A : Arithmetic Extended) (seconds : ℤ)
    (requested average coefficient ceiling : Binary64) : Extended :=
  radiusIn A seconds requested.value average.value coefficient.value ceiling.value

/-- The product, cut to the interval from zero to the ceiling. -/
def exactRadius (seconds : ℤ) (v w c m : ℚ) : ℚ := min m (max 0 (seconds * max v w * c))

/-- A number is the search radius, and what is known about it. -/
structure Gauges (seconds : ℤ) (requested average coefficient ceiling x : Binary64) : Prop where
  computed : x = radiusIn .double seconds requested average coefficient ceiling
  nonneg : 0 ≤ x
  le_ceiling : x ≤ ceiling
  value : x.value =
    radiusOfValues (.extended .round) seconds requested average coefficient ceiling
  /-- However products are rounded, if at all, there is a radius between zero and the ceiling. -/
  sane (round : Extended → Extended) :
    let radius := radiusOfValues (.extended round) seconds requested average coefficient ceiling
    radius ≠ .nan ∧ ¬radius < .number 0 ∧ ¬ceiling.value < radius
  exact {v w c m : ℚ} : requested.value = .number v → average.value = .number w →
    coefficient.value = .number c → ceiling.value = .number m →
    radiusOfValues .exact seconds requested average coefficient ceiling =
      .number (exactRadius seconds v w c m)
  unrounded {v w c m : ℚ} : requested.value = .number v → average.value = .number w →
    coefficient.value = .number c → ceiling.value = .number m →
    (∃ y : Binary64, y.value = .number (seconds * max v w)) →
    (∃ y : Binary64, y.value = .number (seconds * max v w * c)) →
    x.value = .number (exactRadius seconds v w c m)

/-- In double precision, the radius is computed as the program does. -/
lemma radiusIn_double (seconds : ℤ) (requested average coefficient ceiling : Binary64) :
    radiusIn .double seconds requested average coefficient ceiling =
      let distance := (Binary64.ofInt seconds * requested.max average * coefficient).max 0
      if ceiling < distance then ceiling else distance := by
  simp only [radiusIn, Arithmetic.double, decide_eq_true_eq]

/-- With exact numbers, each operation is followed by its rounding. -/
lemma radiusIn_extended (round : Extended → Extended) (seconds : ℤ)
    (requested average coefficient ceiling : Extended) :
    radiusIn (.extended round) seconds requested average coefficient ceiling =
      let distance := (round ((round ((Extended.number seconds).mul (requested.max average))).mul
        coefficient)).max (.number 0)
      if ceiling < distance then ceiling else distance := rfl

/-- At a ceiling above zero, the radius lies between zero and the ceiling. -/
lemma radiusIn_sane {ceiling : Extended} (h : .number 0 < ceiling) (round : Extended → Extended)
    (seconds : ℤ) (requested average coefficient : Extended) :
    let radius := radiusIn (.extended round) seconds requested average coefficient ceiling
    radius ≠ .nan ∧ ¬radius < .number 0 ∧ ¬ceiling < radius := by
  have hirrefl (x : Extended) : ¬x < x := fun hlt => Extended.not_lt_of_lt hlt hlt
  rw [radiusIn_extended]
  generalize round ((round ((Extended.number seconds).mul _)).mul coefficient) = product
  simp only [Extended.max, reduceCtorEq, false_or]
  by_cases hpos : .number 0 < product
  · rw [if_pos hpos]
    split
    case isTrue => exact ⟨Extended.ne_nan_of_lt h, Extended.not_lt_of_lt h, hirrefl _⟩
    case isFalse hle => exact ⟨Extended.ne_nan_of_lt hpos, Extended.not_lt_of_lt hpos, hle⟩
  · rw [if_neg hpos, if_neg (Extended.not_lt_of_lt h)]
    exact ⟨by simp, hirrefl _, Extended.not_lt_of_lt h⟩

/-- The formula gives the exact radius, if no product is changed. -/
lemma radiusOfValues_number (hv : requested.value = .number v) (hw : average.value = .number w)
    (hc : coefficient.value = .number c) (hm : ceiling.value = .number m)
    (h : round (.number (seconds * max v w)) = .number (seconds * max v w))
    (h' : round (.number (seconds * max v w * c)) = .number (seconds * max v w * c)) :
    radiusOfValues (.extended round) seconds requested average coefficient ceiling =
      .number (exactRadius seconds v w c m) := by
  rw [radiusOfValues, hv, hw, hc, hm, radiusIn_extended, Extended.max_number, max_comm]
  simp only [Extended.mul, h, h', Extended.max_number, Extended.number_lt]
  rw [exactRadius, min_def_lt, apply_ite Extended.number]

/-- A formula that rounds its products stands for that in exact numbers with rounding. -/
lemma value_radiusIn (h : seconds.natAbs ≤ 2 ^ 53)
    (requested average coefficient ceiling : Binary64) :
    (radiusIn .double seconds requested average coefficient ceiling).value =
      radiusOfValues (.extended .round) seconds requested average coefficient ceiling := by
  simp only [radiusIn_double, radiusOfValues, radiusIn_extended, apply_ite Binary64.value,
    Binary64.lt_iff_value, Binary64.value_max, Binary64.value_mul, Binary64.value_ofInt h,
    Binary64.value_zero]

/-- However long it takes and however fast it goes, there is a search radius. -/
lemma gauges_radiusIn (hceiling : 0 < ceiling) (h : seconds.natAbs ≤ 2 ^ 53)
    (requested average coefficient : Binary64) :
    Gauges seconds requested average coefficient ceiling
      (radiusIn .double seconds requested average coefficient ceiling) where
  computed := rfl
  nonneg := by
    simp only [radiusIn_double]
    split
    case isTrue => exact Binary64.le_of_lt hceiling
    case isFalse => exact Binary64.le_max_right Binary64.isNaN_zero
  le_ceiling := by
    simp only [radiusIn_double]
    split
    case isTrue => exact Binary64.le_refl hceiling.2.1
    case isFalse hle =>
      exact Binary64.le_of_not_lt (Binary64.isNaN_max Binary64.isNaN_zero) hceiling.2.1 hle
  value := value_radiusIn h requested average coefficient ceiling
  sane round := by
    rw [Binary64.lt_iff_value, Binary64.value_zero] at hceiling
    exact radiusIn_sane hceiling round _ _ _ _
  exact hv hw hc hm := radiusOfValues_number hv hw hc hm rfl rfl
  unrounded hv hw hc hm := by
    rintro ⟨y, hy⟩ ⟨y', hy'⟩
    refine (value_radiusIn h ..).trans (radiusOfValues_number hv hw hc hm ?_ ?_)
    · rw [← hy, Binary64.round_value]
    · rw [← hy', Binary64.round_value]

/-- The program computes the radius in double precision. -/
lemma radius_eq {mode : Mode} {maxDuration : Int32} {coefficient : Binary64} {costing : Costing}
    {routing : RoutingSettings} (h : ¬maxDuration < 0) :
    radius mode maxDuration coefficient costing routing = .ok (radiusIn .double maxDuration.toInt
      (costing.requestedSpeed mode) (routing.averageSpeed.get mode) coefficient
      (routing.maxMatrixDistance.get mode)) := by
  rw [radius, if_neg h, radiusIn_double]
  rfl

end MatrixRequest

open MatrixRequest (Gauges radius)

/-- For accepted settings, any request and any preferences, a negative duration is refused, and for
any other there is a search radius. It is a number between zero and the ceiling of the mode, and the
one that the duration, the faster of the two speeds and the coefficient give, with each product
rounded. In exact numbers, where nothing is rounded, the same formula gives their product, cut to
that interval, if the coefficient, the speeds and the ceiling are finite; and so does the search
radius if the products are double-precision numbers themselves. -/
theorem Settings.Valid.gauges_radius {settings : Settings} (valid : settings.Valid) (mode : Mode)
    (r : MatrixRequest) (p : Preferences) :
    let costing := Costing.ofPreferences mode p settings.routing
    let coefficient := r.coefficient mode settings.routing
    (r.maxDuration < 0 → radius mode r.maxDuration coefficient costing settings.routing =
      .error (.negativeMaxDuration r.maxDuration.toInt)) ∧
    (¬r.maxDuration < 0 → ∃ x,
      radius mode r.maxDuration coefficient costing settings.routing = .ok x ∧
      Gauges r.maxDuration.toInt (costing.requestedSpeed mode)
        (settings.routing.averageSpeed.get mode) coefficient
        (settings.routing.maxMatrixDistance.get mode) x) := by
  refine ⟨fun h => if_pos h, fun h => ⟨_, MatrixRequest.radius_eq h, ?_⟩⟩
  have hlt := r.maxDuration.toInt_lt
  have hle := r.maxDuration.le_toInt
  exact MatrixRequest.gauges_radiusIn (valid.routing.maxMatrixDistance mode) (by omega) _ _ _

/-- A request that tries its luck with a coefficient. -/
def MatrixRequest.gamble (maxDuration : Int32) (coefficient : Binary64) : MatrixRequest where
  mode := "walking"
  maxDuration := maxDuration
  walkingCoefficient := some coefficient

/-- A coefficient that is no number, at an infinite speed, and a minute and a half at two meters per
second, three times as far. -/
theorem Settings.Valid.gauges_radius_gamble :
    Settings.boundless.Valid ∧ Settings.Valid {} ∧
      (∃ x, radius .walking 0 ((MatrixRequest.gamble 0 .nan).coefficient .walking boundless.routing)
          (.ofPreferences .walking .erratic boundless.routing) boundless.routing = .ok x ∧
        0 ≤ x ∧ x ≤ boundless.routing.maxMatrixDistance.walking) ∧
      ∃ x, radius .walking 90 ((MatrixRequest.gamble 90 (.ofNat 3)).coefficient .walking .default)
          (.ofPreferences .walking { walkingSpeed := .ofNat 2 } .default) .default = .ok x ∧
        x.value = .number 540 := by
  have hvalid : Settings.boundless.Valid := by decide +kernel
  have hvalid' : Settings.Valid {} := by decide +kernel
  obtain ⟨x, hx, hgauges⟩ :=
    (hvalid.gauges_radius .walking (.gamble 0 .nan) .erratic).2 (by decide)
  obtain ⟨x', hx', hgauges'⟩ := (hvalid'.gauges_radius .walking (.gamble 90 (.ofNat 3))
    { walkingSpeed := .ofNat 2 }).2 (by decide)
  refine ⟨hvalid, hvalid', ⟨x, hx, hgauges.nonneg, hgauges.le_ceiling⟩, x', hx', ?_⟩
  have hvalue := @hgauges'.unrounded 2 1 3 10000 (by decide +kernel) (by decide +kernel)
    (by decide +kernel) (by decide +kernel) ⟨.ofNat 180, by decide +kernel⟩
    ⟨.ofNat 540, by decide +kernel⟩
  exact hvalue.trans (by decide +kernel)

end Wayfinding
