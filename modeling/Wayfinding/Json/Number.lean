import Wayfinding.Json.Token

/-!
# Values of JSON numbers

A number with a point or an exponent is read in two steps: as many of its digits as fit in 64 bits
make an integer, which is then scaled by a power of ten. Each step rounds to nearest, so the result
may differ from the number nearest the text in its last place. A number too large for double
precision has no value.

Main definition: `NumberText.toBinary64?`.
-/

namespace Wayfinding.Json

/-- The integer that the leading digits of a number make, times a power of ten. -/
structure Significand where
  digits : Nat
  exponent : Int
deriving DecidableEq, Repr

namespace Significand

/-- Whether an integer fits in 64 bits. -/
def fits (n : Nat) : Bool := decide (n < UInt64.size)

/-- Appends digits as long as the integer fits; each appended digit changes the exponent by `taken`,
each digit that is left out by `dropped`. -/
def append (taken dropped : Int) (s : Significand) : List Char → Significand
  | [] => s
  | c :: cs =>
    let digits := 10 * s.digits + Decimal.digitValue c
    if fits digits then append taken dropped ⟨digits, s.exponent + taken⟩ cs
    else ⟨s.digits, s.exponent + dropped * (cs.length + 1)⟩

/-- The significand of the digits before and after the point. -/
def ofDigits (whole fraction : List Char) : Significand :=
  append (-1) 0 (append 0 1 ⟨0, 0⟩ whole) fraction

/-- The largest power of ten by which a number is scaled at once. -/
def largestStep : Nat := 308

/-- A number scaled by a power of ten, in steps if need be. -/
def scale (x : Binary64) (exponent : Int) : Option Binary64 :=
  if exponent.natAbs ≤ largestStep then
    let power := Binary64.ofNat (Nat.pow 10 exponent.natAbs)
    if 0 ≤ exponent then some (x * power) else some (x / power)
  else if x.magnitude = 0 then some x
  else if 0 ≤ exponent then none
  else scale (x / .ofNat (Nat.pow 10 largestStep)) (exponent + largestStep)
termination_by (-exponent).toNat
decreasing_by simp only [largestStep] at *; omega

/-- The value of a significand, if it is not too large. -/
def toBinary64? (s : Significand) : Option Binary64 :=
  (scale (.ofNat s.digits) s.exponent).filter Binary64.isFinite

end Significand

namespace NumberText

/-- The largest exponent that is told apart from larger ones. -/
def largestExponent : Nat := 2147483647

/-- The magnitude of a number. -/
def magnitude? (n : NumberText) : Option Binary64 :=
  let s := Significand.ofDigits n.whole n.fraction
  match n.exponent with
  | none => s.toBinary64?
  | some (negative, digits) =>
    let e := Decimal.ofDigits digits
    if e ≤ largestExponent then
      Significand.toBinary64? ⟨s.digits, if negative then s.exponent - e else s.exponent + e⟩
    else if s.digits = 0 ∨ negative then some 0
    else none

/-- The value of a number. -/
def toBinary64? (n : NumberText) : Option Binary64 :=
  n.magnitude?.map fun x => if n.negative then -x else x

end NumberText

end Wayfinding.Json
