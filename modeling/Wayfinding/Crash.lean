/-!
# Crashes

What breaks off leaves a text, or nothing that can be shown. An operation on numbers of some bits
breaks off when its result does not fit in them.

Main definitions:
* `Crash`, and what is reported about one, `Crash.message`.
* `Checked.add32`, `Checked.add64`, `Checked.sub64`: operations on numbers that check their result.
-/

namespace Wayfinding

/-- How a computation broke off. -/
inductive Crash where
  /-- It left a text. -/
  | said (text : String)
  /-- It left nothing that can be shown. -/
  | silent
deriving DecidableEq, Repr, Inhabited

namespace Crash

/-- What is reported about a crash. -/
def message : Crash → String
  | said text => text
  | silent => "unknown panic"

/-- A sum does not fit. -/
def sumOverflow : Crash := said "attempt to add with overflow"

/-- A difference does not fit. -/
def differenceOverflow : Crash := said "attempt to subtract with overflow"

end Crash

namespace Checked

/-- The sum of two signed numbers of 32 bits. -/
def add32 (a b : Int32) : Except Crash Int32 :=
  let n := a.toInt + b.toInt
  if Int32.minValue.toInt ≤ n ∧ n ≤ Int32.maxValue.toInt then .ok (Int32.ofInt n)
  else .error .sumOverflow

/-- The sum of two numbers of 64 bits. -/
def add64 (a b : Nat) : Except Crash Nat :=
  if a + b < UInt64.size then .ok (a + b) else .error .sumOverflow

/-- The difference of two signed numbers of 64 bits. -/
def sub64 (a b : Int64) : Except Crash Int64 :=
  let n := a.toInt - b.toInt
  if Int64.minValue.toInt ≤ n ∧ n ≤ Int64.maxValue.toInt then .ok (Int64.ofInt n)
  else .error .differenceOverflow

end Checked

end Wayfinding
