/-!
# Digits

Digits in bases of up to sixteen.

Main definitions:
* `Digit.value?`, `Digit.upper`: the value of a digit, and the digit of a value.
* `Digit.number`: the number that digits write.

Main statement: `value?_upper`, by which a digit that is written reads back.
-/

namespace Wayfinding.Digit

/-- The value of a hexadecimal digit. -/
def value? (c : Char) : Option Nat :=
  if '0' ≤ c ∧ c ≤ '9' then some (c.toNat - '0'.toNat)
  else if 'a' ≤ c ∧ c ≤ 'f' then some (c.toNat - 'a'.toNat + 10)
  else if 'A' ≤ c ∧ c ≤ 'F' then some (c.toNat - 'A'.toNat + 10)
  else none

/-- The digit of a value below sixteen, as an upper-case letter from ten on. -/
def upper (n : Nat) : Char :=
  if n < 10 then Char.ofNat ('0'.toNat + n) else Char.ofNat ('A'.toNat + (n - 10))

/-- Whether a character is a digit in a base of up to sixteen. -/
def isIn (base : Nat) (c : Char) : Bool := (value? c).any (· < base)

/-- The number that digits write in a base of up to sixteen. -/
def number (base : Nat) (digits : List Char) : Nat :=
  digits.foldl (fun n c => base * n + (value? c).getD 0) 0

/-- The number that characters write in a base of up to sixteen, if all are digits. -/
def number? (base : Nat) (cs : List Char) : Option Nat :=
  if cs.all (isIn base) then some (number base cs) else none

/-- A byte as two hexadecimal digits. -/
def ofByte (b : UInt8) : List Char := [upper (b.toNat / 16), upper (b.toNat % 16)]

/-- A digit that is written reads back. -/
theorem value?_upper {n : Nat} (h : n < 16) : value? (upper n) = some n := by
  have all : ∀ m ∈ List.range 16, value? (upper m) = some m := by decide
  exact all n (List.mem_range.2 h)

end Wayfinding.Digit
