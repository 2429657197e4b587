/-!
# Shutdown

The order to stop is announced once, to the tasks that listen at that moment. The task that accepts
clients listens from the start, the broker from when it runs, and a connection from when it is
accepted.

Main definitions:
* `Shutdown.step?`: what happens to the announcement and the tasks.
* `Shutdown.Reachable`: the states that a run can come to.
-/

namespace Wayfinding

/-- What a task does. -/
inductive TaskRole where
  | acceptor
  | broker
  | connection
deriving DecidableEq, Repr

/-- A task that listens for the announcement. -/
structure Task where
  role : TaskRole
  /-- How many announcements were made before it listened, or have been heard since. -/
  heard : Nat
  ended : Bool := false
deriving DecidableEq, Repr

/-- The announcement of the shutdown, and who listens for it. -/
structure Shutdown where
  /-- How many announcements were made. -/
  announced : Nat := 0
  tasks : List Task := []
deriving DecidableEq, Repr

namespace Shutdown

/-- Whether the shutdown has been announced. -/
def isTriggered (s : Shutdown) : Bool := 0 < s.announced

/-- Whether an announcement waits for a task. -/
def waitsFor (s : Shutdown) (t : Task) : Bool := t.heard < s.announced

/-- Announces the shutdown, unless that has been done. -/
def trigger (s : Shutdown) : Shutdown := if s.isTriggered then s else { s with announced := 1 }

/-- A task begins to listen; it hears what is announced from now on. -/
def subscribe (s : Shutdown) (role : TaskRole) : Shutdown :=
  { s with tasks := s.tasks ++ [{ role := role, heard := s.announced }] }

/-- What may happen. -/
inductive Event where
  | trigger
  /-- The acceptor or the broker begins its work. -/
  | begin (role : TaskRole)
  /-- The acceptor, which is the given task, accepts a client. -/
  | accept (acceptor : Nat)
  /-- A task takes the announcement that waits for it, and ends. -/
  | hear (task : Nat)
  /-- A task ends by itself. -/
  | finish (task : Nat)
deriving DecidableEq, Repr

/-- Ends a task, given how many announcements it has heard. -/
def endTask (s : Shutdown) (index : Nat) (t : Task) (heard : Nat) : Shutdown :=
  { s with tasks := s.tasks.set index { t with heard := heard, ended := true } }

/-- The state after an event, if the event can happen. -/
def step? (s : Shutdown) : Event → Option Shutdown
  | .trigger => some s.trigger
  | .begin role =>
    if role = .connection ∨ s.tasks.any (·.role = role) then none else some (s.subscribe role)
  | .accept i =>
    match s.tasks[i]? with
    | some t => if t.role = .acceptor ∧ !t.ended then some (s.subscribe .connection) else none
    | none => none
  | .hear i =>
    match s.tasks[i]? with
    | some t => if !t.ended ∧ s.waitsFor t then some (s.endTask i t s.announced) else none
    | none => none
  | .finish i =>
    match s.tasks[i]? with
    | some t => if t.ended then none else some (s.endTask i t t.heard)
    | none => none

/-- The states that a run can come to. -/
inductive Reachable : Shutdown → Prop where
  | start : Reachable {}
  | step {s t : Shutdown} {e : Event} : Reachable s → s.step? e = some t → Reachable t

/-- The announcement is made at most once. -/
theorem announced_le_one {s : Shutdown} (h : Reachable s) : s.announced ≤ 1 := by
  induction h with
  | start => exact Nat.zero_le 1
  | @step s t e _ he ih => cases e <;> grind [step?, trigger, isTriggered, subscribe, endTask]

end Shutdown

end Wayfinding
