import Mathlib.Order.Basic
import Wayfinding.Settings.Fault

/-!
# What accepted settings promise

Settings are accepted when no check finds a fault. The checks of the routing settings are turned
into facts about every mode; the numbers may still be infinite.

Main statement: `Settings.Valid.routing`.
-/

namespace Wayfinding

/-- What the engine and the searches rely on. -/
structure RoutingSettings.Sound (r : RoutingSettings) : Prop where
  averageSpeed (mode : Mode) : 0 < r.averageSpeed.get mode
  maxSpeed (mode : Mode) : 0 < r.maxSpeed.get mode
  maxMatrixDistance (mode : Mode) : 0 < r.maxMatrixDistance.get mode
  durationCoefficient (mode : Mode) : 0 < r.durationCoefficient.get mode
  average_not_above (mode : Mode) : ¬r.maxSpeed.get mode < r.averageSpeed.get mode

/-- All modes are listed. -/
@[simp] lemma Mode.mem_all (mode : Mode) : mode ∈ Mode.all := by
  cases mode <;> decide

namespace Settings

/-- Values without faults are above zero. -/
lemma pos_of_positiveFaults {group : String} {values : PerMode Binary64}
    (h : positiveFaults group values = []) (mode : Mode) : 0 < values.get mode := by
  have hmode := List.flatMap_eq_nil_iff.mp h mode mode.mem_all
  by_contra hpos
  simp [hpos] at hmode

/-- Averages without faults are not above the ceilings. -/
lemma not_above_of_speedFaults {r : RoutingSettings} (h : speedFaults r = []) (mode : Mode) :
    ¬r.maxSpeed.get mode < r.averageSpeed.get mode := by
  intro habove
  have hmode := List.flatMap_eq_nil_iff.mp h mode mode.mem_all
  simp [habove] at hmode

/-- Valid settings are sound. -/
theorem Valid.routing {s : Settings} (h : s.Valid) : s.routing.Sound := by
  simp only [Valid, faults, List.append_eq_nil_iff] at h
  obtain ⟨⟨⟨⟨⟨⟨⟨-, haverage⟩, hmax⟩, hdistance⟩, hcoefficient⟩, hspeed⟩, -⟩, -⟩ := h
  exact {
    averageSpeed := pos_of_positiveFaults haverage
    maxSpeed := pos_of_positiveFaults hmax
    maxMatrixDistance := pos_of_positiveFaults hdistance
    durationCoefficient := pos_of_positiveFaults hcoefficient
    average_not_above := not_above_of_speedFaults hspeed }

end Settings

end Wayfinding
