import Wayfinding.Number.Rounding

/-!
# Binary64 numbers

A double-precision number is kept as its 64-bit word, so that two numbers are equal exactly when
their bits are, zeros keep their sign and the payload of a NaN survives.

Main definitions:
* `Binary64.key`, the order, and `Binary64.max`, in which a NaN gives way to a number.
* `Binary64.ofRatio`: the correctly rounded value of an exact quotient.
* `Binary64.add`, `Binary64.mul`, `Binary64.div`: the exact result, correctly rounded.
* `Binary64.round`, `Binary64.truncate`, `Binary64.clampedInt`: integers near a number.
-/

namespace Wayfinding

/-- A double-precision number, given by its word. -/
structure Binary64 where
  /-- Sign, exponent and fraction, from the highest bit to the lowest. -/
  bits : UInt64
deriving DecidableEq, Hashable, Inhabited

namespace Binary64

/-- The word whose only set bit is the sign. -/
def signWord : Nat := 0x8000000000000000

/-- The word without its sign bit. -/
def magnitude (x : Binary64) : Nat := x.bits.toNat % signWord

/-- Whether the sign bit is set. -/
def isNegative (x : Binary64) : Bool := decide (signWord ≤ x.bits.toNat)

/-- The word with the given sign and magnitude. -/
def ofParts (negative : Bool) (magnitude : Nat) : Binary64 :=
  ⟨UInt64.ofNat (if negative then signWord + magnitude else magnitude)⟩

/-- The magnitude of the infinities. -/
def infinityMagnitude : Nat := 0x7ff0000000000000

/-- Whether the word denotes no number at all. -/
def isNaN (x : Binary64) : Bool := decide (infinityMagnitude < x.magnitude)

/-- Whether the word denotes a finite number. -/
def isFinite (x : Binary64) : Bool := decide (x.magnitude < infinityMagnitude)

/-- Positive zero. -/
def zero : Binary64 := ⟨0⟩

instance : OfNat Binary64 0 := ⟨zero⟩

/-- The infinity of the given sign. -/
def infinity (negative : Bool) : Binary64 := ofParts negative infinityMagnitude

/-- The NaN that a text denotes. -/
def nan : Binary64 := ⟨0x7ff8000000000000⟩

/-- The NaN that an operation without a meaningful result gives. -/
def invalid : Binary64 := ⟨0xfff8000000000000⟩

/-- A NaN operand is passed on with its quiet bit set. -/
def quiet (x : Binary64) : Binary64 := ⟨x.bits ||| 0x0008000000000000⟩

/-- The same magnitude with the opposite sign. -/
def neg (x : Binary64) : Binary64 := ofParts (!x.isNegative) x.magnitude

instance : Neg Binary64 := ⟨neg⟩

/-! ### Order -/

/-- An integer that grows with the number; both zeros have the key `0`. -/
def key (x : Binary64) : Int :=
  if x.isNegative then -(x.magnitude : Int) else x.magnitude

instance : LT Binary64 := ⟨fun x y => x.isNaN = false ∧ y.isNaN = false ∧ x.key < y.key⟩

instance : LE Binary64 := ⟨fun x y => x.isNaN = false ∧ y.isNaN = false ∧ x.key ≤ y.key⟩

instance (x y : Binary64) : Decidable (x < y) :=
  inferInstanceAs (Decidable (x.isNaN = false ∧ y.isNaN = false ∧ x.key < y.key))

instance (x y : Binary64) : Decidable (x ≤ y) :=
  inferInstanceAs (Decidable (x.isNaN = false ∧ y.isNaN = false ∧ x.key ≤ y.key))

/-- One number is below another exactly when neither is a NaN and its key is smaller. -/
theorem lt_iff {x y : Binary64} : x < y ↔ x.isNaN = false ∧ y.isNaN = false ∧ x.key < y.key :=
  Iff.rfl

/-- Whether two numbers have the same value: the zeros do, a NaN never does. -/
def sameValue (x y : Binary64) : Bool := decide (x ≤ y ∧ y ≤ x)

/-- The larger of two numbers; a NaN gives way to the other operand, and so does an equal one. -/
def max (x y : Binary64) : Binary64 :=
  if y.isNaN then x
  else if x.isNaN then y
  else if y < x then x
  else y

/-- Whether a number lies in a closed interval. -/
def between (low high x : Binary64) : Bool := decide (low ≤ x ∧ x ≤ high)

/-! ### Exact values -/

/-- One is this many smallest subnormal numbers. -/
def oneUnits : Nat := Nat.pow 2 1074

/-- The distance of a finite number from zero, counted in smallest subnormal numbers. -/
def units (x : Binary64) : Nat := BinaryFormat.double.units x.magnitude

/-- A finite number, counted in smallest subnormal numbers. -/
def signedUnits (x : Binary64) : Int :=
  if x.isNegative then -(x.units : Int) else x.units

/-- The number nearest `num / den` with the given sign, ties to even. -/
def ofRatio (negative : Bool) (num den : Nat) : Binary64 :=
  ofParts negative (BinaryFormat.double.nearest num den)

/-- The number nearest an integer. -/
def ofInt (n : Int) : Binary64 := ofRatio (decide (n < 0)) n.natAbs 1

/-- The number nearest a natural number. -/
def ofNat (n : Nat) : Binary64 := ofRatio false n 1

/-! ### Arithmetic -/

/-- The correctly rounded sum. -/
def add (x y : Binary64) : Binary64 :=
  if x.isNaN then x.quiet
  else if y.isNaN then y.quiet
  else match x.isFinite, y.isFinite with
    | true, true =>
      let sum := x.signedUnits + y.signedUnits
      if sum = 0 then ofParts (x.isNegative && y.isNegative) 0
      else ofRatio (decide (sum < 0)) sum.natAbs oneUnits
    | false, false => if x = y then x else invalid
    | false, true => x
    | true, false => y

/-- The correctly rounded product. -/
def mul (x y : Binary64) : Binary64 :=
  let sign := x.isNegative != y.isNegative
  if x.isNaN then x.quiet
  else if y.isNaN then y.quiet
  else if x.isFinite && y.isFinite then
    ofRatio sign (x.units * y.units) (oneUnits * oneUnits)
  else if x.magnitude = 0 || y.magnitude = 0 then invalid
  else infinity sign

/-- The correctly rounded quotient. -/
def div (x y : Binary64) : Binary64 :=
  let sign := x.isNegative != y.isNegative
  if x.isNaN then x.quiet
  else if y.isNaN then y.quiet
  else match x.isFinite, y.isFinite with
    | true, true =>
      if y.magnitude = 0 then
        if x.magnitude = 0 then invalid else infinity sign
      else ofRatio sign x.units y.units
    | true, false => ofParts sign 0
    | false, true => infinity sign
    | false, false => invalid

instance : Add Binary64 := ⟨add⟩
instance : Mul Binary64 := ⟨mul⟩
instance : Div Binary64 := ⟨div⟩

/-- The sum of a list, from left to right. -/
def sum (xs : List Binary64) : Binary64 := xs.foldl (· + ·) 0

/-! ### Nearby integers -/

/-- The nearest integer as a number, ties away from zero; the sign of a zero is kept. -/
def round (x : Binary64) : Binary64 :=
  if x.isFinite then ofRatio x.isNegative (Rounding.halfUp x.units oneUnits) 1
  else if x.isNaN then x.quiet
  else x

/-- The integer part of a finite number. -/
def truncate (x : Binary64) : Int :=
  if x.isNegative then -((x.units / oneUnits : Nat) : Int) else ((x.units / oneUnits : Nat) : Int)

/-- The integer part, cut to an interval; a NaN counts as zero. -/
def clampedInt (low high : Int) (x : Binary64) : Int :=
  if x.isNaN then 0
  else if x.isFinite then min high (Max.max low x.truncate)
  else if x.isNegative then low
  else high

/-- The integer part as an unsigned 32-bit word, cut to its range. -/
def toWord32 (x : Binary64) : UInt32 :=
  UInt32.ofNat (x.clampedInt 0 (UInt32.size - 1)).toNat

/-- The integer part as a signed 64-bit integer, cut to its range. -/
def toSigned64 (x : Binary64) : Int :=
  x.clampedInt Int64.minValue.toInt Int64.maxValue.toInt

/-! ### Machine numbers -/

/-- The machine number with the same word. -/
def toFloat (x : Binary64) : Float := Float.ofBits x.bits

/-- The word of a machine number. -/
def ofFloat (x : Float) : Binary64 := ⟨x.toBits⟩

end Binary64

/-- A single-precision number, given by its word. -/
structure Binary32 where
  /-- Sign, exponent and fraction, from the highest bit to the lowest. -/
  bits : UInt32
deriving DecidableEq, Hashable, Inhabited

namespace Binary32

/-- The word whose only set bit is the sign. -/
def signWord : Nat := 0x80000000

/-- The word with the given sign and magnitude. -/
def ofParts (negative : Bool) (magnitude : Nat) : Binary32 :=
  ⟨UInt32.ofNat (if negative then signWord + magnitude else magnitude)⟩

/-- The same number in double precision. -/
def widen (x : Binary32) : Binary64 :=
  let magnitude := x.bits.toNat % signWord
  let negative := decide (signWord ≤ x.bits.toNat)
  if BinaryFormat.single.infinity < magnitude then
    .ofParts negative (Binary64.infinityMagnitude + magnitude % 0x800000 * 0x20000000)
  else if magnitude = BinaryFormat.single.infinity then .infinity negative
  else .ofRatio negative (BinaryFormat.single.units magnitude) BinaryFormat.single.one

end Binary32

end Wayfinding
