import Wayfinding.Message.Response

/-!
# Elevation profiles

The height along a shape is looked up outside of the service. A lookup may fail, which costs no more
than the profile.

Main definitions:
* `ElevationSource`: a function from shapes to profiles.
* `ElevationSample.reduce`: the points of a profile at which the height changes.
-/

namespace Wayfinding

/-- Why there is no profile. -/
inductive ElevationFailure where
  /-- The service did not answer. -/
  | unreachable
  /-- The service answered with an error status. -/
  | status (code : Nat)
  /-- The answer could not be read. -/
  | malformed
deriving DecidableEq, Repr

namespace ElevationFailure

/-- The failure in words. -/
def message : ElevationFailure → String
  | unreachable => "elevation service did not answer"
  | status code => s!"elevation service answered {code}"
  | malformed => "elevation service answered no heights"

end ElevationFailure

/-- The profile of a shape. -/
abbrev ElevationSource := List Coordinate → Except ElevationFailure (List ElevationSample)

namespace ElevationSample

/-- The points from `index` on whose height differs from the last one kept. -/
def reduceAfter (kept : Option Binary64) (index : Nat) :
    List (Binary64 × Binary64) → List ElevationSample
  | [] => []
  | (distance, height) :: points =>
    if kept.any (·.sameValue height) then reduceAfter kept (index + 1) points
    else ⟨distance, height, UInt32.ofNat index⟩ :: reduceAfter (some height) (index + 1) points

/-- The first point of a profile, and each point whose height differs from the one kept before. -/
def reduce (points : List (Binary64 × Binary64)) : List ElevationSample :=
  reduceAfter none 0 points

end ElevationSample

end Wayfinding
