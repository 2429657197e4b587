import Wayfinding.Number.Binary64

/-!
# Decimal numbers

Reading and writing binary floating-point numbers in decimal notation.

Main definitions:
* `Decimal.parse?`: the decimal grammar, with an optional sign, point and exponent.
* `Decimal.magnitude`: the magnitude nearest a decimal in a binary format.
* `Binary64.shortest`: the fewest digits that read back, and of those the nearest.
* `Binary64.positional`: a number without an exponent.
* `Binary64.fixed`: a number with a fixed count of decimal places.
-/

namespace Wayfinding

/-- The number `± digits * 10 ^ exponent`. -/
structure Decimal where
  /-- Whether the number carries a minus sign. -/
  negative : Bool
  /-- The digits as one natural number. -/
  digits : Nat
  /-- The power of ten of the last digit. -/
  exponent : Int
deriving DecidableEq, Repr

/-- How many decimal digits a number has; zero has none. -/
def digitCount (n : Nat) : Nat :=
  if n = 0 then 0 else digitCount (n / 10) + 1
termination_by n
decreasing_by omega

namespace Decimal

/-! ### Reading -/

/-- Whether a character is one of the ten digits. -/
def isDigit (c : Char) : Bool := decide ('0' ≤ c ∧ c ≤ '9')

/-- The value of a digit. -/
def digitValue (c : Char) : Nat := c.toNat - '0'.toNat

/-- The natural number that a list of digits writes. -/
def ofDigits (ds : List Char) : Nat :=
  ds.foldl (fun n c => 10 * n + digitValue c) 0

/-- A sign, if there is one, and the rest of the text. -/
def takeSign : List Char → Bool × List Char
  | '-' :: rest => (true, rest)
  | '+' :: rest => (false, rest)
  | cs => (false, cs)

/-- The exponent that a text denotes: nothing, or a letter `e` and a signed integer. -/
def exponent? : List Char → Option Int
  | [] => some 0
  | c :: rest =>
    if c = 'e' ∨ c = 'E' then
      let (negative, ds) := takeSign rest
      if ds ≠ [] ∧ ds.all isDigit then
        some (if negative then -(ofDigits ds : Int) else ofDigits ds)
      else none
    else none

/-- Reads digits with an optional point among them and an optional exponent; at least one digit
stands before the exponent. -/
def unsigned? (negative : Bool) (cs : List Char) : Option Decimal :=
  let whole := cs.takeWhile isDigit
  let (fraction, rest) := match cs.dropWhile isDigit with
    | '.' :: rest => (rest.takeWhile isDigit, rest.dropWhile isDigit)
    | rest => ([], rest)
  if whole ++ fraction = [] then none
  else (exponent? rest).map fun e => ⟨negative, ofDigits (whole ++ fraction), e - fraction.length⟩

/-- Reads a decimal number with an optional sign. -/
def parse? (cs : List Char) : Option Decimal :=
  let (negative, rest) := takeSign cs
  unsigned? negative rest

/-! ### Conversion -/

/-- The magnitude nearest a decimal. Decimals far outside the range of every format are decided by
their order of magnitude alone. -/
def magnitude (f : BinaryFormat) (d : Decimal) : Nat :=
  let order := (digitCount d.digits : Int) + d.exponent
  if d.digits = 0 ∨ order < -400 then 0
  else if 400 < order then f.infinity
  else if 0 ≤ d.exponent then f.nearest (d.digits * Nat.pow 10 d.exponent.toNat) 1
  else f.nearest d.digits (Nat.pow 10 (-d.exponent).toNat)

/-- The double-precision number nearest a decimal. -/
def toBinary64 (d : Decimal) : Binary64 := .ofParts d.negative (d.magnitude .double)

/-- The single-precision number nearest a decimal. -/
def toBinary32 (d : Decimal) : Binary32 := .ofParts d.negative (d.magnitude .single)

/-! ### Writing -/

/-- The same number without trailing zeros among its digits. -/
def trim (d : Decimal) : Decimal :=
  if d.digits ≠ 0 ∧ d.digits % 10 = 0 then
    trim ⟨d.negative, d.digits / 10, d.exponent + 1⟩
  else d
termination_by d.digits
decreasing_by omega

/-- The digits of a decimal, at least one. -/
def digitChars (d : Decimal) : List Char := Nat.toDigits 10 d.digits

/-- A minus sign for a negative number. -/
def signChars (negative : Bool) : List Char := if negative then ['-'] else []

/-- The digits of a magnitude with the point `places` digits from their end. -/
def pointed (places : Nat) (ds : List Char) : List Char :=
  let padded := List.replicate (places + 1 - ds.length) '0' ++ ds
  let whole := padded.length - places
  if places = 0 then padded else padded.take whole ++ '.' :: padded.drop whole

/-- A decimal written without an exponent. -/
def positional (d : Decimal) : List Char :=
  signChars d.negative ++
    if 0 ≤ d.exponent then
      if d.digits = 0 then ['0'] else d.digitChars ++ List.replicate d.exponent.toNat '0'
    else pointed (-d.exponent).toNat d.digitChars

end Decimal

/-- The numbers that have a word instead of digits. -/
inductive NonFinite where
  | infinity
  | nan
deriving DecidableEq, Repr

namespace NonFinite

/-- The number of a word, in any case of its letters. -/
def ofWord? (word : List Char) : Option NonFinite :=
  match String.ofList (word.map Char.toLower) with
  | "inf" | "infinity" => some infinity
  | "nan" => some nan
  | _ => none

/-- The double-precision number with the given sign. -/
def toBinary64 (negative : Bool) : NonFinite → Binary64
  | infinity => .infinity negative
  | nan => if negative then -.nan else .nan

/-- The single-precision number with the given sign. -/
def toBinary32 (negative : Bool) : NonFinite → Binary32
  | infinity => .ofParts negative BinaryFormat.single.infinity
  | nan => .ofParts negative (BinaryFormat.single.infinity + 0x400000)

end NonFinite

/-- Reads a single-precision number: a decimal number, or a word for infinity or NaN, with an
optional sign. -/
def Binary32.parse? (cs : List Char) : Option Binary32 :=
  let (negative, rest) := Decimal.takeSign cs
  ((NonFinite.ofWord? rest).map (NonFinite.toBinary32 negative)).or
    ((Decimal.unsigned? negative rest).map Decimal.toBinary32)

/-- Which of two neighbouring decimals is written for a number halfway between them. -/
inductive Tie where
  | up
  /-- The one whose last digit is even. -/
  | even
deriving DecidableEq, Repr

/-- Whether a number halfway between `low` and its successor goes up. -/
def Tie.goesUp : Tie → Nat → Bool
  | up, _ => true
  | even, low => low % 2 == 1

namespace Binary64

/-- Reads a decimal number, or a word for infinity or NaN, with an optional sign. -/
def parse? (cs : List Char) : Option Binary64 :=
  let (negative, rest) := Decimal.takeSign cs
  ((NonFinite.ofWord? rest).map (NonFinite.toBinary64 negative)).or
    ((Decimal.unsigned? negative rest).map Decimal.toBinary64)

/-- The power of ten just above a positive quotient: `10 ^ (k - 1) ≤ num / den < 10 ^ k`. -/
def orderOfMagnitude (num den : Nat) : Int :=
  if den ≤ num then digitCount (num / den) else 1 - (digitCount ((den - 1) / num) : Int)

/-- The two multiples of `10 ^ exponent` around a quotient, the nearer first. -/
def neighbours (tie : Tie) (num den : Nat) (exponent : Int) : List Nat :=
  let num := if 0 ≤ exponent then num else num * Nat.pow 10 (-exponent).toNat
  let den := if 0 ≤ exponent then den * Nat.pow 10 exponent.toNat else den
  let low := num / den
  let twice := 2 * (num % den)
  if twice < den ∨ (twice = den ∧ tie.goesUp low = false) then [low, low + 1] else [low + 1, low]

/-- The exact decimal value of a finite number. -/
def exactDecimal (x : Binary64) : Decimal :=
  ⟨x.isNegative, x.units * Nat.pow 5 1074, -1074⟩

/-- The first decimal with `count` digits or more, up to `count + fuel`, that reads back as the
given finite number. -/
def firstReadingBack (tie : Tie) (x : Binary64) (order : Int) : Nat → Nat → Decimal
  | _, 0 => x.exactDecimal
  | count, fuel + 1 =>
    let exponent := order - count
    match (neighbours tie x.units oneUnits exponent).find? fun n =>
        Decimal.toBinary64 ⟨x.isNegative, n, exponent⟩ = x with
    | some n => ⟨x.isNegative, n, exponent⟩
    | none => firstReadingBack tie x order (count + 1) fuel

/-- The fewest decimal digits that read back as a finite number, and of those the nearest. -/
def shortest (tie : Tie) (x : Binary64) : Decimal :=
  if x.magnitude = 0 then ⟨x.isNegative, 0, 0⟩
  else (firstReadingBack tie x (orderOfMagnitude x.units oneUnits) 1 17).trim

/-- The words for the numbers without digits. -/
def nonFiniteChars (x : Binary64) : List Char :=
  if x.isNaN then "NaN".toList
  else Decimal.signChars x.isNegative ++ "inf".toList

/-- The shortest decimal that reads back, without an exponent; a tie goes up. -/
def positional (x : Binary64) : List Char :=
  if x.isFinite then (x.shortest .up).positional else x.nonFiniteChars

/-- The exact value rounded to a fixed count of decimal places, ties to even. -/
def fixed (places : Nat) (x : Binary64) : List Char :=
  if x.isFinite then
    Decimal.signChars x.isNegative ++
      Decimal.pointed places
        (Nat.toDigits 10 (Rounding.halfEven (x.units * Nat.pow 10 places) oneUnits))
  else x.nonFiniteChars

instance : ToString Binary64 := ⟨fun x => String.ofList x.positional⟩

end Binary64

end Wayfinding
