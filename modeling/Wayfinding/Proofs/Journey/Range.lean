import Wayfinding.Proofs.Journey.Announcement

/-!
# Legs within their path

The legs of a trip along a path with maneuvers are within that path. So a leg finds every maneuver
that it asks for, and fails to become a section only where the shape is too short.

Main definitions: `Leg.Within`, `Halt.OutsideShape`.
Main lemmas: `Trip.within_legs`, `Leg.outside_of_toSection`.
-/

namespace Wayfinding

/-- One result after another fails as the first, or else as the second. -/
lemma error_of_bind_eq_error {ε α β : Type} {x : Except ε α} {f : α → Except ε β} {r : ε}
    (h : x >>= f = .error r) : x = .error r ∨ ∃ a, x = .ok a ∧ f a = .error r := by
  cases x with
  | error r' =>
    cases h
    exact .inl rfl
  | ok a => exact .inr ⟨a, rfl, h⟩

/-- A point was asked for that the shape does not have. -/
def Halt.OutsideShape (halt : Halt) : Prop :=
  ∃ index length, halt = .refused (.shapeIndex index length)

namespace Path

variable {p : Path} {i first last : Nat} {halt : Halt}

/-- A point that is missing is outside the shape. -/
lemma outside_of_point (h : p.point i = .error halt) : halt.OutsideShape := by
  unfold point at h
  split at h
  · cases h
  · cases h
    exact ⟨_, _, rfl⟩

/-- A stretch that is missing is outside the shape. -/
lemma outside_of_points (h : p.points first last = .error halt) : halt.OutsideShape := by
  unfold points at h
  split at h
  · cases h
  · cases h
    exact ⟨_, _, rfl⟩

/-- A maneuver within the path is there. -/
lemma maneuver_ne_error (hi : i < p.maneuvers.length) : p.maneuver i ≠ .error halt := by
  intro h
  rw [maneuver_eq_ok.2 (List.getElem?_eq_getElem hi)] at h
  cases h

/-- A maneuver that is not there is not mistaken for a difference that does not fit. -/
lemma maneuver_ne_difference : p.maneuver i ≠ .error (.crashed .differenceOverflow) := by
  unfold maneuver
  intro h
  split at h
  · cases h
  · -- the texts about the two differ in their first characters
    have htext := Crash.said.inj (Halt.crashed.inj (Except.error.inj h))
    have hhead := congrArg (fun text => text.toList.head?) htext
    simp only [String.toList_append] at hhead
    have hne : some 'i' ≠ some 'a' := by decide
    exact hne hhead

/-- A leg without an end is outside the shape. -/
lemma outside_of_finish (hne : 0 < p.maneuvers.length) (h : p.finish last = .error halt) :
    halt.OutsideShape := by
  unfold finish at h
  split at h
  · obtain hpoint | ⟨c, -, h⟩ := error_of_bind_eq_error h
    · exact outside_of_point hpoint
    · obtain hlast | ⟨m, -, h⟩ := error_of_bind_eq_error h
      · exact absurd hlast (maneuver_ne_error (Nat.sub_one_lt_of_lt hne))
      · cases h
  · next hlt =>
    obtain hnext | ⟨m, -, h⟩ := error_of_bind_eq_error h
    · exact absurd hnext (maneuver_ne_error (Nat.not_le.1 hlt))
    · obtain hpoint | ⟨c, -, h⟩ := error_of_bind_eq_error h
      · exact outside_of_point hpoint
      · cases h

end Path

namespace Leg

variable {path : Path} {costs : BikeShareCosts} {instructions stations : Bool} {leg : Leg}
  {halt : Halt} {count first last : Nat}

/-- A leg finds what it asks for among so many maneuvers: the one where it starts, those that it
goes along, and the one that describes its end. -/
def Within (count : Nat) : Leg → Prop
  | street first last _ =>
    first < count ∧ (first ≤ last ∧ last ≤ count) ∧
      (if count ≤ last then count - 1 else last) < count
  | station index _ => index < count

/-- A leg on streets is within the path if its maneuvers are. -/
lemma within_street (hfirst : first < count) (hle : first ≤ last) (hlast : last ≤ count) :
    (street first last stations).Within count := by
  refine ⟨hfirst, ⟨hle, hlast⟩, ?_⟩
  split <;> omega

/-- A leg within the path that becomes no section is outside the shape. -/
lemma outside_of_toSection (hw : leg.Within path.maneuvers.length)
    (h : leg.toSection path costs instructions = .error halt) : halt.OutsideShape := by
  cases leg with
  | street first last stations =>
    obtain ⟨hfirst, -⟩ := hw
    obtain hstart | ⟨start, -, h⟩ := error_of_bind_eq_error h
    · exact absurd hstart (Path.maneuver_ne_error hfirst)
    obtain hfinish | ⟨⟨bound, target, arrival⟩, -, h⟩ := error_of_bind_eq_error h
    · exact Path.outside_of_finish (Nat.zero_lt_of_lt hfirst) hfinish
    obtain hpoints | ⟨coordinates, -, h⟩ := error_of_bind_eq_error h
    · exact Path.outside_of_points hpoints
    obtain hpoint | ⟨source, -, h⟩ := error_of_bind_eq_error h
    · exact Path.outside_of_point hpoint
    cases h
  | station index visit =>
    obtain hm | ⟨m, -, h⟩ := error_of_bind_eq_error h
    · exact absurd hm (Path.maneuver_ne_error hw)
    obtain hpoint | ⟨c, -, h⟩ := error_of_bind_eq_error h
    · exact Path.outside_of_point hpoint
    cases h

end Leg

namespace Trip

variable {mode : Mode} {path : Path} {trip : Trip}

/-- A mark that is found is within the path. -/
lemma lt_length_of_find? {maneuvers : List Maneuver} {action : StationAction} {i : Nat}
    (h : find? maneuvers action = some i) : i < maneuvers.length := by
  obtain ⟨⟨m, hm, -⟩, -⟩ := of_find? h
  obtain ⟨hi, -⟩ := List.getElem?_eq_some_iff.1 hm
  exact hi

/-- On a bike-share trip, a bike is returned after it was taken, and both happen on the path. -/
lemma lt_of_ofPath {r p : Nat} (h : ofPath mode path = .ok (.bikeShare r p)) :
    r < p ∧ p < path.maneuvers.length := by
  unfold ofPath at h
  split at h
  · obtain ⟨htrip, -, -⟩ | ⟨r, p, htrip, -, hputBack, hlt⟩ := of_classify h
    · cases htrip
    · cases htrip
      exact ⟨hlt, lt_length_of_find? hputBack⟩
  · cases h

/-- The legs of a trip are within the path, wherever its marks are. -/
lemma within_legs (hne : path.maneuvers ≠ []) (h : ofPath mode path = .ok trip) :
    ∀ leg ∈ trip.legs path.maneuvers.length, leg.Within path.maneuvers.length := by
  have hpos : 0 < path.maneuvers.length := List.length_pos_iff.2 hne
  intro leg hleg
  cases trip with
  | whole =>
    obtain rfl := List.mem_singleton.1 hleg
    exact Leg.within_street hpos (Nat.zero_le _) (Nat.le_refl _)
  | bikeShare r p =>
    obtain ⟨hlt, hp⟩ := lt_of_ofPath h
    have hr := hlt.trans hp
    obtain ⟨-, rfl⟩ | rfl | rfl | rfl | ⟨-, rfl⟩ := mem_legs_bikeShare.1 hleg
    · exact Leg.within_street hpos (Nat.zero_le r) hr.le
    · exact hr
    · exact Leg.within_street hr hlt.le hp.le
    · exact hp
    · exact Leg.within_street hp hp.le (Nat.le_refl _)

end Trip

end Wayfinding
