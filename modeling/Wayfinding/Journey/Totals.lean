import Wayfinding.Crash
import Wayfinding.Message.Response

/-!
# Totals of a journey

A journey announces how long it takes and how far it goes, in total and by mode. The total duration
is the time from the first departure to the last arrival. Totals have as many bits as what is added
up; one that does not fit is a crash.

Main definitions:
* `Totals.addSection`: what a section adds to the totals by mode.
* `Journey.totals`: the totals of a journey.
* `Journey.announced`: a journey with its totals.
-/

namespace Wayfinding

/-- Durations and distances by mode. -/
structure Totals where
  durations : Durations := {}
  distances : Distances := {}
deriving DecidableEq, Inhabited

namespace Totals

open Checked (add32)

/-- Adds seconds, then meters, to the totals of a way of moving. -/
def add (t : Totals) (mode : StreetMode) (seconds meters : Int32) : Except Crash Totals :=
  let du := t.durations
  let di := t.distances
  match mode with
  | .walking => do
    return ⟨{ du with walking := ← add32 du.walking seconds },
      { di with walking := ← add32 di.walking meters }⟩
  | .bike | .bss => do
    return ⟨{ du with bike := ← add32 du.bike seconds },
      { di with bike := ← add32 di.bike meters }⟩
  | .car | .carNoPark => do
    return ⟨{ du with car := ← add32 du.car seconds },
      { di with car := ← add32 di.car meters }⟩
  | .ridesharing => do
    return ⟨{ du with ridesharing := ← add32 du.ridesharing seconds },
      { di with ridesharing := ← add32 di.ridesharing meters }⟩
  | .taxi => do
    return ⟨{ du with taxi := ← add32 du.taxi seconds },
      { di with taxi := ← add32 di.taxi meters }⟩

/-- Adds what a section takes. Sections at stations count for no mode, and a transfer counts only
when it is walked. -/
def addSection (t : Totals) (s : Section) : Except Crash Totals :=
  match SectionKind.ofNumber s.kind with
  | .street | .crowFly =>
    match s.street with
    | some street => t.add (.ofNumber street.mode) s.duration s.length
    | none => .ok t
  | .transfer =>
    match TransferKind.ofNumber s.transfer with
    | .walking => t.add .walking s.duration 0
    | _ => .ok t
  | _ => .ok t

/-- The totals of some sections. -/
def ofSections (sections : List Section) : Except Crash Totals := sections.foldlM addSection {}

end Totals

namespace Journey

/-- Seconds between two instants, which are compared as signed numbers, at most what a message can
carry. -/
def elapsedBetween (first last : UInt64) : Except Crash Int32 := do
  let seconds ← Checked.sub64 last.toInt64 first.toInt64
  let n := seconds.toInt
  return if Int32.minValue.toInt ≤ n ∧ n ≤ Int32.maxValue.toInt then Int32.ofInt n
    else Int32.maxValue

/-- Seconds from the begin of the first section to the end of the last one. -/
def span (sections : List Section) : Except Crash Int32 :=
  match sections.head?, sections.getLast? with
  | some first, some last => elapsedBetween first.beginsAt last.endsAt
  | _, _ => .ok 0

/-- The totals of the journey, by mode first. -/
def totals (j : Journey) : Except Crash Totals := do
  let t ← Totals.ofSections j.sections
  return { t with durations := { t.durations with total := ← span j.sections } }

/-- The journey with some totals, which are its own unless others are given. -/
def withTotals (j : Journey) (t : Totals := j.totals.toOption.getD {}) : Journey :=
  { j with
    durations := some t.durations
    distances := some t.distances }

/-- The journey with its totals, or the crash of one that does not fit. -/
def announced (j : Journey) : Except Crash Journey := do
  return j.withTotals (← j.totals)

end Journey

end Wayfinding
