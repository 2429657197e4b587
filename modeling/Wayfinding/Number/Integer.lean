import Wayfinding.Number.Decimal

/-!
# Integers in decimal

Main definitions: `Integer.natural?` and `Integer.signed?`, which read digits with an optional sign
and nothing else.
-/

namespace Wayfinding.Integer

/-- The number that digits write; there is at least one. -/
def digits? (cs : List Char) : Option Nat :=
  if cs ≠ [] ∧ cs.all Decimal.isDigit then some (Decimal.ofDigits cs) else none

/-- A natural number below a limit; it may have a plus sign. -/
def natural? (limit : Nat) (cs : List Char) : Option Nat :=
  (match cs with
    | '+' :: rest => digits? rest
    | _ => digits? cs).filter (· < limit)

/-- An integer from `low` to `high`; it may have a sign. -/
def signed? (low high : Int) (cs : List Char) : Option Int :=
  let (negative, rest) := Decimal.takeSign cs
  ((digits? rest).map fun n => if negative then -(n : Int) else n).filter fun n =>
    low ≤ n ∧ n ≤ high

end Wayfinding.Integer
