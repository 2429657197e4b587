import Wayfinding.Crash

/-!
# Backoff

The pause before a retry doubles from a base up to a maximum, and is then lengthened by a part of at
most a tenth, so that retries that were started together drift apart.

Main definitions: `Backoff.delay`, `Backoff.lengthening`, `Backoff.total` and `Backoff.pause`.
-/

namespace Wayfinding.Backoff

/-- The largest number of milliseconds. -/
def limit : Nat := UInt64.size - 1

/-- The factor of a retry, the largest number when its power of two has more than 64 bits. -/
def factor (attempt : Nat) : Nat := if attempt - 1 < 64 then 1 <<< (attempt - 1) else limit

/-- The pause before a retry without its lengthening; the first attempt is number one, and attempt
zero pauses for nothing. -/
def delay (attempt base maximum : Nat) : Nat :=
  if attempt = 0 then 0 else min (min (base * factor attempt) limit) maximum

/-- The lengthening is below this bound, and zero if the bound is. -/
def jitterRange (delay : Nat) : Nat := delay / 10

/-- What lengthens a pause, where `draw` gives a number below a positive bound. -/
def lengthening (draw : Nat → Nat) (delay : Nat) : Nat :=
  if 0 < jitterRange delay then draw (jitterRange delay) else 0

/-- The pause before a retry with its lengthening. -/
def total (draw : Nat → Nat) (attempt base maximum : Nat) : Nat :=
  let d := delay attempt base maximum
  d + lengthening draw d

/-- The pause before a retry, or a crash if it has more than 64 bits. -/
def pause (draw : Nat → Nat) (attempt base maximum : Nat) : Except Crash Nat :=
  let d := delay attempt base maximum
  Checked.add64 d (lengthening draw d)

end Wayfinding.Backoff
