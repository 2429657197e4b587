import Mathlib.Logic.Basic
import Wayfinding.Proofs.Number.Order
import Wayfinding.Proofs.Settings.Sound
import Wayfinding.Road.StraightLine

/-!
# What the straight-line engine divides by

The engine divides distances by its speed, and by the meters in a kilometer. Here its computations
are written over the division that they use, so that they can be run with one that refuses every
divisor that is not a positive number. With accepted settings it never refuses.

Main definitions:
* `Costing.ceilings`: the ceilings that apply to the speeds of a costing.
* `StraightLine.pathBy`, `StraightLine.cellsBy`: the engine, over a division.
* `Binary64.divide?`: the division that refuses.

Main statement: `StraightLine.divides_by_positive`.
-/

namespace Wayfinding

/-! ### Speeds under their ceilings -/

namespace Costing

/-- The ceilings that apply to the speeds of a costing. -/
def ceilings (mode : Mode) (routing : RoutingSettings) : Speeds where
  walking := routing.maxSpeed.walking
  bike := bikeCeiling mode routing
  car := routing.maxSpeed.car
  taxi := routing.maxSpeed.taxi

/-- A number from zero up to a ceiling. -/
def Admitted (speed ceiling : Binary64) : Prop :=
  speed.isNaN = false ∧ 0 ≤ speed ∧ speed ≤ ceiling

/-- A NaN is not above the ceiling; it gives way to zero. -/
lemma clampSpeed_admitted {ceiling : Binary64} (hceiling : 0 < ceiling) (requested : Binary64) :
    Admitted (clampSpeed requested ceiling) ceiling := by
  have hnum : ceiling.isNaN = false := hceiling.2.1
  unfold clampSpeed
  split
  case isTrue =>
    exact ⟨hnum, Binary64.le_of_lt hceiling, Binary64.le_refl hnum⟩
  case isFalse hnot =>
    exact ⟨Binary64.isNaN_max Binary64.isNaN_zero, Binary64.le_max_right Binary64.isNaN_zero,
      Binary64.max_le_of_not_lt (Binary64.le_of_lt hceiling) hnot⟩

/-- The ceiling for bikes is above zero. -/
lemma bikeCeiling_pos {routing : RoutingSettings} (h : routing.Sound) (mode : Mode) :
    0 < bikeCeiling mode routing := by
  cases mode with
  | bss => exact h.maxSpeed .bss
  | walking => exact h.maxSpeed .bike
  | bike => exact h.maxSpeed .bike
  | car => exact h.maxSpeed .bike
  | taxi => exact h.maxSpeed .bike

end Costing

/-- Each speed is admitted below its ceiling. -/
structure Speeds.Within (speeds ceilings : Speeds) : Prop where
  walking : Costing.Admitted speeds.walking ceilings.walking
  bike : Costing.Admitted speeds.bike ceilings.bike
  car : Costing.Admitted speeds.car ceilings.car
  taxi : Costing.Admitted speeds.taxi ceilings.taxi

/-- Whatever speeds are preferred, those of the costing are within the ceilings. -/
lemma Costing.ofPreferences_within {routing : RoutingSettings} (h : routing.Sound) (mode : Mode)
    (p : Preferences) :
    (ofPreferences mode p routing).speeds.Within (ceilings mode routing) where
  walking := clampSpeed_admitted (h.maxSpeed .walking) _
  bike := clampSpeed_admitted (bikeCeiling_pos h mode) _
  car := clampSpeed_admitted (h.maxSpeed .car) _
  taxi := clampSpeed_admitted (h.maxSpeed .taxi) _

/-! ### The engine over a division -/

/-- The division that refuses a divisor which is not a positive number. -/
def Binary64.divide? (x y : Binary64) : Option Binary64 :=
  if 0 < y then some (x / y) else none

/-- One may divide by what is above zero. -/
lemma Binary64.divide?_of_pos {y : Binary64} (h : 0 < y) (x : Binary64) :
    divide? x y = some (x / y) := if_pos h

namespace StraightLine

/-- The speed of a path is above zero. -/
lemma speed_pos {s : StraightLine} (h : s.routing.Sound) (costing : Costing) :
    0 < s.speed costing := by
  simp only [speed]
  split
  case isTrue hpos => exact hpos
  case isFalse => exact h.averageSpeed costing.mode

section Over

variable {m : Type → Type} [Monad m] (divide : Binary64 → Binary64 → m Binary64)

/-- The time of a path, with a division of one's own. -/
def travelTimeBy (distance speed : Binary64) : m Nat := do
  let seconds ← divide distance speed
  return seconds.round.toWord32.toNat

/-- The path between two places, with a division of one's own. -/
def pathBy (s : StraightLine) (origin destination : Location) (costing : Costing) : m Path := do
  let distance := s.globe.distance origin.snapped destination.snapped
  let time ← travelTimeBy divide distance (s.speed costing)
  let lengthKm ← divide distance (.ofNat 1000)
  let depart : Maneuver :=
    { graph := costing.mode.graph
      start := 0
      lengthKm := lengthKm
      time := time
      turnDegree := turnDegree (s.globe.bearing origin.snapped destination.snapped)
      instruction := some "Head straight to your destination." }
  let arrive : Maneuver :=
    { graph := costing.mode.graph
      start := 1
      instruction := some "You have arrived at your destination." }
  return { maneuvers := [depart, arrive]
           shape := [origin.snapped, destination.snapped]
           elapsed := time }

/-- The cell of two places, with a division of one's own. -/
def cellBy (s : StraightLine) (costing : Costing) (maxDistance : Binary64)
    (source target : Location) : m TimeDistance := do
  let distance := s.globe.distance source.snapped target.snapped
  if maxDistance < distance then return .unreachable
  else
    let time ← travelTimeBy divide distance (s.speed costing)
    return ⟨time, distance.round.toWord32.toNat⟩

/-- The cells of all pairs, over a division. -/
def cellsBy (s : StraightLine) (sources targets : List Location) (costing : Costing)
    (maxDistance : Binary64) : m (List TimeDistance) := do
  let rows ← sources.mapM fun source =>
    targets.mapM (s.cellBy divide costing maxDistance source)
  return rows.flatten

end Over

variable {s : StraightLine} {costing : Costing}

/-- No path divides by zero. -/
lemma pathBy_divide? (h : 0 < s.speed costing) (origin destination : Location) :
    s.pathBy Binary64.divide? origin destination costing
      = some (s.path origin destination costing) := by
  have hkm : 0 < Binary64.ofNat 1000 := by decide +kernel
  simp only [pathBy, travelTimeBy, Binary64.divide?_of_pos h, Binary64.divide?_of_pos hkm]
  rfl

/-- No cell divides by zero. -/
lemma cellBy_divide? (h : 0 < s.speed costing) (maxDistance : Binary64)
    (source target : Location) :
    s.cellBy Binary64.divide? costing maxDistance source target
      = some (s.cell costing maxDistance source target) := by
  simp only [cellBy, cell, travelTimeBy, Binary64.divide?_of_pos h]
  split
  case isTrue => rfl
  case isFalse => rfl

/-- No matrix divides by zero. -/
lemma cellsBy_divide? (h : 0 < s.speed costing) (sources targets : List Location)
    (maxDistance : Binary64) :
    s.cellsBy Binary64.divide? sources targets costing maxDistance
      = some (sources.flatMap fun source => targets.map (s.cell costing maxDistance source)) := by
  have hrow (source : Location) :
      targets.mapM (s.cellBy Binary64.divide? costing maxDistance source)
        = some (targets.map (s.cell costing maxDistance source)) := by
    rw [funext (cellBy_divide? h maxDistance source)]
    exact List.mapM_pure
  have hrows : sources.mapM (fun source =>
        some (targets.map (s.cell costing maxDistance source)))
      = some (sources.map fun source => targets.map (s.cell costing maxDistance source)) :=
    List.mapM_pure
  simp only [cellsBy, funext hrow, hrows, List.flatMap_def]
  rfl

end StraightLine

/-- Whatever speeds a request asks for, those of its costing lie between zero and their ceilings,
the engine travels at a positive speed, and neither of its searches divides by anything but
positive numbers. -/
theorem Settings.Valid.divides_by_positive {settings : Settings} (valid : settings.Valid)
    (globe : Globe) (mode : Mode) (p : Preferences) :
    let costing := Costing.ofPreferences mode p settings.routing
    let s : StraightLine := ⟨globe, settings.engine.coverage, settings.routing⟩
    costing.speeds.Within (Costing.ceilings mode settings.routing) ∧
      (0 < s.speed costing ∧ (s.speed costing).isNaN = false) ∧
      (∀ origin destination, ∃ path,
        s.pathBy Binary64.divide? origin destination costing = some path ∧
        s.engine.search origin destination costing = .ok (some path)) ∧
      ∀ sources targets maxDistance, ∃ cells,
        s.cellsBy Binary64.divide? sources targets costing maxDistance = some cells ∧
        s.engine.searchMatrix sources targets costing maxDistance = .ok cells := by
  intro costing s
  have hsound : s.routing.Sound := valid.routing
  have hspeed : 0 < s.speed costing := s.speed_pos hsound costing
  refine ⟨Costing.ofPreferences_within hsound mode p, ⟨hspeed, hspeed.2.1⟩, ?_, ?_⟩
  · intro origin destination
    exact ⟨_, StraightLine.pathBy_divide? hspeed origin destination, rfl⟩
  · intro sources targets maxDistance
    exact ⟨_, StraightLine.cellsBy_divide? hspeed sources targets maxDistance, rfl⟩

/-- Settings without any finite speed. -/
def Settings.boundless : Settings where
  routing := { RoutingSettings.default with
    averageSpeed := .uniform (.infinity false)
    maxSpeed := .uniform (.infinity false) }

/-- A request without any usable speed. -/
def Preferences.erratic : Preferences where
  walkingSpeed := .nan
  bikeSpeed := .infinity true
  bssSpeed := some .invalid
  carSpeed := -Binary64.ofNat 1
  taxiSpeed := -0

/-- Without bounds and without usable preferences, the speeds are within their ceilings still. -/
theorem divides_by_positive_boundless :
    let costing := Costing.ofPreferences .bss .erratic Settings.boundless.routing
    Settings.boundless.Valid ∧
      costing.speeds.Within (Costing.ceilings .bss Settings.boundless.routing) ∧
      0 < StraightLine.speed ⟨.haversine, none, Settings.boundless.routing⟩ costing := by
  have valid : Settings.boundless.Valid := by decide +kernel
  obtain ⟨hwithin, ⟨hpos, -⟩, -⟩ := valid.divides_by_positive .haversine .bss .erratic
  exact ⟨valid, hwithin, hpos⟩

end Wayfinding
