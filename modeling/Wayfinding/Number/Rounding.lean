/-!
# Rounding of exact quotients

Exact quotients of natural numbers are rounded to integers and to the finite magnitudes of a
binary floating-point format.

Main definitions:
* `Rounding.halfEven`, `Rounding.halfUp`: the nearest integer, with the two rules for a tie.
* `BinaryFormat.units`: the value of a magnitude, counted in the smallest subnormal number.
* `BinaryFormat.nearest`: the magnitude nearest a quotient, ties to even.
-/

namespace Wayfinding

namespace Rounding

/-- The integer nearest `num / den`; a tie goes to the even neighbour. -/
def halfEven (num den : Nat) : Nat :=
  let quotient := num / den
  let twice := 2 * (num % den)
  if twice < den then quotient
  else if den < twice then quotient + 1
  else quotient + quotient % 2

/-- The integer nearest `num / den`; a tie goes up. -/
def halfUp (num den : Nat) : Nat :=
  (2 * num + den) / (2 * den)

/-- A whole number is its own rounding. -/
theorem halfEven_mul (n : Nat) {den : Nat} (h : 0 < den) : halfEven (n * den) den = n := by
  have h1 : n * den / den = n := Nat.mul_div_cancel n h
  have h2 : n * den % den = 0 := Nat.mul_mod_left n den
  simp only [halfEven, h1, h2]
  rw [if_pos (by omega)]

end Rounding

/-- The layout of a binary interchange format. A magnitude is a word without its sign bit; read as
a natural number it grows with the value that it denotes. -/
structure BinaryFormat where
  /-- Number of stored fraction bits. -/
  fractionBits : Nat
  /-- Number of exponent bits. -/
  exponentBits : Nat

namespace BinaryFormat

/-- The format with 52 fraction bits and 11 exponent bits. -/
def double : BinaryFormat := ⟨52, 11⟩

/-- The format with 23 fraction bits and 8 exponent bits. -/
def single : BinaryFormat := ⟨23, 8⟩

/-- The magnitude of the infinities; larger magnitudes are not numbers. -/
def infinity (f : BinaryFormat) : Nat :=
  (Nat.pow 2 f.exponentBits - 1) * Nat.pow 2 f.fractionBits

/-- One is this many smallest subnormal numbers. -/
def one (f : BinaryFormat) : Nat :=
  Nat.pow 2 (Nat.pow 2 (f.exponentBits - 1) - 2 + f.fractionBits)

/-- The value of a finite magnitude, counted in smallest subnormal numbers. -/
def units (f : BinaryFormat) (magnitude : Nat) : Nat :=
  let exponent := magnitude / Nat.pow 2 f.fractionBits
  let fraction := magnitude % Nat.pow 2 f.fractionBits
  if exponent = 0 then fraction
  else (Nat.pow 2 f.fractionBits + fraction) * Nat.pow 2 (exponent - 1)

/-- The magnitude whose value is nearest `num / den`; a tie goes to the even magnitude, and what
is too large goes to infinity. -/
def nearest (f : BinaryFormat) (num den : Nat) : Nat :=
  let scaled := num * f.one
  let shift := (scaled / den).log2 - f.fractionBits
  min f.infinity
    (shift * Nat.pow 2 f.fractionBits + Rounding.halfEven scaled (den * Nat.pow 2 shift))

end BinaryFormat

end Wayfinding
