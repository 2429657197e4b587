import Mathlib.Data.List.Forall2
import Wayfinding.Journey.Assembly
import Wayfinding.Proofs.Answer.Procedure

/-!
# The sections of an assembled journey

A journey that is assembled has one section for each leg of its trip. The lemmas say what is known
about a leg that has become a section, and about the sections of a journey, but for their heights
and their place in time.

Main definitions: `Section.bare`.
Main lemmas: `Leg.streetSection_eq_ok`, `Leg.stationSection_eq_ok`, `JourneyQuery.of_assemble`.
-/

namespace Wayfinding

open Procedure (Leads)

variable {P : Shared → Prop}

namespace Path

variable {p : Path} {i first last bound : Nat} {m arrival : Maneuver} {c target : Coordinate}
  {cs : List Coordinate}

/-- A maneuver is found at its index. -/
lemma maneuver_eq_ok : p.maneuver i = .ok m ↔ p.maneuvers[i]? = some m := by
  unfold maneuver
  cases p.maneuvers[i]? <;> simp

/-- A point is found at its index. -/
lemma point_eq_ok : p.point i = .ok c ↔ p.shape[i]? = some c := by
  unfold point
  cases p.shape[i]? <;> simp

/-- A stretch is found if its bounds are in order and in the shape. -/
lemma points_eq_ok : p.points first last = .ok cs ↔
    (first ≤ last ∧ last ≤ p.shape.length) ∧ (p.shape.take last).drop first = cs := by
  unfold points
  split
  · next h => simp [h]
  · next h => simp [h]

/-- A leg that takes all remaining maneuvers ends with the shape. -/
lemma finish_of_le (hle : p.maneuvers.length ≤ last)
    (h : p.finish last = .ok (bound, target, arrival)) :
    bound = p.shape.length ∧ p.shape[p.shape.length - 1]? = some target ∧
      p.maneuvers[p.maneuvers.length - 1]? = some arrival := by
  unfold finish at h
  rw [if_pos hle] at h
  obtain ⟨c, hc, h⟩ := exists_of_bind_eq_ok h
  obtain ⟨m, hm, h⟩ := exists_of_bind_eq_ok h
  cases h
  exact ⟨rfl, point_eq_ok.1 hc, maneuver_eq_ok.1 hm⟩

/-- Any other leg ends where the next maneuver starts, this point included. -/
lemma finish_of_lt (hlt : last < p.maneuvers.length)
    (h : p.finish last = .ok (bound, target, arrival)) :
    bound = arrival.start + 1 ∧ p.shape[arrival.start]? = some target ∧
      p.maneuvers[last]? = some arrival := by
  unfold finish at h
  rw [if_neg (Nat.not_le.2 hlt)] at h
  obtain ⟨m, hm, h⟩ := exists_of_bind_eq_ok h
  obtain ⟨c, hc, h⟩ := exists_of_bind_eq_ok h
  cases h
  exact ⟨rfl, point_eq_ok.1 hc, maneuver_eq_ok.1 hm⟩

end Path

/-- The section without the heights along it. -/
def Section.bare (s : Section) : Section :=
  { s with street := s.street.map fun part => { part with elevations := [] } }

namespace Leg

variable {path : Path} {costs : BikeShareCosts} {instructions stations : Bool}
  {first last index : Nat} {visit : StationVisit} {leg : Leg} {s : Section}

/-- A number is cut to those that a message can carry. -/
lemma toInt_cut (n : Int) : (cut n).toInt = min 2147483647 (max 0 n) := by
  unfold cut
  rw [Int32.toInt_maxValue]
  exact Int32.toInt_ofInt_of_le (by omega) (by omega)

/-- What is known about a leg on the streets that has become a section. -/
lemma streetSection_eq_ok
    (h : streetSection path costs instructions first last stations = .ok s) :
    ∃ start bound target arrival source,
      path.maneuvers[first]? = some start ∧
      path.finish last = .ok (bound, target, arrival) ∧
      start.start ≤ bound ∧ bound ≤ path.shape.length ∧
      path.shape[start.start]? = some source ∧
      s = {
        kind := SectionKind.street.number
        origin := some (endpoint stations start.graph source start).place
        destination := some (endpoint stations start.graph target arrival).place
        duration := time costs start (path.part first last)
        length := length (path.part first last)
        street := some {
          duration := time costs start (path.part first last)
          length := length (path.part first last)
          mode := start.graph.streetMode.number
          items := PathItem.between path first last instructions
          coordinates := (path.shape.take bound).drop start.start } } := by
  obtain ⟨start, hstart, h⟩ := exists_of_bind_eq_ok h
  obtain ⟨⟨bound, target, arrival⟩, hfinish, h⟩ := exists_of_bind_eq_ok h
  obtain ⟨coordinates, hpoints, h⟩ := exists_of_bind_eq_ok h
  obtain ⟨source, hsource, h⟩ := exists_of_bind_eq_ok h
  cases h
  obtain ⟨⟨hle, hbound⟩, rfl⟩ := Path.points_eq_ok.1 hpoints
  exact ⟨start, bound, target, arrival, source, Path.maneuver_eq_ok.1 hstart, hfinish, hle, hbound,
    Path.point_eq_ok.1 hsource, rfl⟩

/-- How long a stop at a station takes. -/
def stopTime (costs : BikeShareCosts) : StationVisit → Nat
  | .rent => costs.rentDuration
  | .putBack => costs.returnDuration

/-- What is known about a stop at a station that has become a section. -/
lemma stationSection_eq_ok (h : stationSection path costs index visit = .ok s) :
    s.kind ≠ SectionKind.street.number ∧ s.duration = cut (stopTime costs visit) ∧
      s.bare = s := by
  obtain ⟨m, -, h⟩ := exists_of_bind_eq_ok h
  obtain ⟨c, -, h⟩ := exists_of_bind_eq_ok h
  cases h
  have hrent : SectionKind.rent.number ≠ SectionKind.street.number := by decide
  have hputBack : SectionKind.putBack.number ≠ SectionKind.street.number := by decide
  cases visit with
  | rent => exact ⟨hrent, rfl, rfl⟩
  | putBack => exact ⟨hputBack, rfl, rfl⟩

/-- A section has no heights before they are looked up. -/
lemma bare_of_toSection (h : leg.toSection path costs instructions = .ok s) : s.bare = s := by
  cases leg with
  | street first last stations =>
    obtain ⟨_, _, _, _, _, -, -, -, -, -, rfl⟩ := streetSection_eq_ok h
    rfl
  | station index visit =>
    obtain ⟨-, -, hbare⟩ := stationSection_eq_ok h
    exact hbare

/-- No section takes less than no time. -/
lemma duration_nonneg (h : leg.toSection path costs instructions = .ok s) :
    0 ≤ s.duration.toInt := by
  have hcut : ∀ n, 0 ≤ (cut n).toInt := fun n => by
    rw [toInt_cut]
    omega
  cases leg with
  | street first last stations =>
    obtain ⟨_, _, _, _, _, -, -, -, -, -, rfl⟩ := streetSection_eq_ok h
    exact hcut _
  | station index visit =>
    obtain ⟨-, hduration, -⟩ := stationSection_eq_ok h
    rw [hduration]
    exact hcut _

/-- What becomes of legs takes no less than no time. -/
lemma durations_nonneg {legs : List Leg} {ss : List Section}
    (h : List.Forall₂ (fun leg s => leg.toSection path costs instructions = .ok s.bare) legs ss) :
    ∀ s ∈ ss, 0 ≤ s.duration.toInt := by
  induction h with
  | nil => exact fun s hs => absurd hs List.not_mem_nil
  | @cons _ s _ _ hs _ ih =>
    have hd : 0 ≤ s.bare.duration.toInt := duration_nonneg hs
    exact List.forall_mem_cons.2 ⟨hd, ih⟩

end Leg

/-- The legs of a bike-share trip. -/
lemma Trip.mem_legs_bikeShare {r p count : Nat} {leg : Leg} : leg ∈ (bikeShare r p).legs count ↔
    (0 < r ∧ leg = .street 0 r true) ∨ leg = .station r .rent ∨ leg = .street r p true ∨
      leg = .station p .putBack ∨ (p + 1 < count ∧ leg = .street p count true) := by
  simp only [legs, List.mem_append, List.mem_ite_nil_right, List.mem_cons, List.not_mem_nil,
    or_false, or_assoc]

/-- There is no trip without a leg. -/
lemma Trip.legs_ne_nil (trip : Trip) (count : Nat) : trip.legs count ≠ [] := by
  cases trip with
  | whole => exact List.cons_ne_nil _ _
  | bikeShare rent putBack => simp [legs]

/-- A profile adds nothing but heights. -/
lemma Section.bare_of_withProfile {elevation : Option ElevationSource} {s s' : Section}
    (h : (s.withProfile elevation).Leads P (.done s')) : s'.bare = s.bare := by
  unfold withProfile at h
  split at h
  · next part hpart =>
    split at h
    · cases h.of_call.of_done
      simp only [bare, hpart, Option.map_some]
    · cases h.of_done
      rfl
  · cases h.of_done
    rfl

/-- Totals change nothing about the sections. -/
@[simp] lemma Journey.sections_withTotals (j : Journey) (t : Totals) :
    (j.withTotals t).sections = j.sections := rfl

namespace JourneyQuery

variable {q : JourneyQuery} {path : Path} {costs : BikeShareCosts} {costing : Costing}
  {elevation : Option ElevationSource} {legs : List Leg} {ss : List Section} {j : Journey}

/-- Each leg has become a section. -/
lemma of_sections (h : (q.sections path costs elevation legs).Leads P (.done ss)) :
    List.Forall₂ (fun leg s => leg.toSection path costs q.instructions = .ok s.bare) legs ss := by
  induction legs generalizing ss with
  | nil =>
    cases h.of_done
    exact .nil
  | cons leg legs ih =>
    unfold sections at h
    cases hs : leg.toSection path costs q.instructions with
    | error halt =>
      rw [hs] at h
      cases h.of_halt
    | ok base =>
      rw [hs] at h
      obtain ⟨s, hprofile, h⟩ := h.of_bind_done
      obtain ⟨ss', hss, h⟩ := h.of_bind_done
      cases h.of_done
      refine .cons ?_ (ih hss)
      rw [Section.bare_of_withProfile hprofile, Leg.bare_of_toSection hs]
      exact hs

/-- What is known about a journey that was assembled. -/
lemma of_assemble (h : (q.assemble path costing elevation).Leads P (.done j)) :
    ∃ trip ss t, Trip.ofPath costing.mode path = .ok trip ∧
      List.Forall₂ (fun leg s => leg.toSection path costing.bikeShare q.instructions = .ok s.bare)
        (trip.legs path.maneuvers.length) ss ∧
      (q.journey path ss).totals = .ok t ∧ j = (q.journey path ss).withTotals t := by
  obtain ⟨trip, htrip, h⟩ := h.of_bind_done
  obtain ⟨ss, hss, h⟩ := h.of_bind_done
  obtain ⟨t, ht, hj⟩ := exists_of_bind_eq_ok h.of_risk
  exact ⟨trip, ss, t, htrip.of_ofExcept, of_sections hss, ht, (Except.ok.inj hj).symm⟩

end JourneyQuery

end Wayfinding
