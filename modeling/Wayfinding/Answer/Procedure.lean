import Wayfinding.Answer.Metrics
import Wayfinding.Answer.Refusal
import Wayfinding.Road.Engine

/-!
# Procedures

What a worker does for one request is a procedure: a sequence of atomic steps on the state that all
workers share. Several workers interleave the steps of their procedures; one worker alone runs its
procedure from start to end.

Main definitions:
* `Procedure`, with `pure`, `bind` and `Procedure.attempt`, which turns a halt into a value.
* `Shared`: the caches, the journal and the calls that were made.
* `Procedure.step`: the first step of a procedure on the shared state.
* `Procedure.run`: a whole procedure on the shared state.
-/

namespace Wayfinding

/-- How a procedure ends early. -/
inductive Halt where
  | refused (reason : Refusal)
  | crashed (crash : Crash)
deriving DecidableEq

/-- A call to a collaborator outside of the service. -/
inductive Call where
  | project (coordinate : Coordinate) (mode : Mode)
  | search (origin destination : Coordinate)
  | searchMatrix (sources targets : List Coordinate) (maxDistance : Binary64)
  | elevations (shape : List Coordinate)
deriving DecidableEq

/-- A sequence of atomic steps that ends with a value or halts. -/
inductive Procedure (α : Type) where
  /-- Ends with a value. -/
  | done (value : α)
  /-- Ends without a value. -/
  | halt (reason : Halt)
  /-- Asks the cache of a graph for a coordinate. -/
  | lookup (graph : Graph) (key : Coordinate) (next : Option Location → Procedure α)
  /-- Remembers a location in the cache of a graph. -/
  | store (graph : Graph) (key : Coordinate) (location : Location) (next : Procedure α)
  /-- Reads what is published about the caches. -/
  | inspect (next : (Graph → CacheStats) → Procedure α)
  /-- Makes a measurement. -/
  | measure (measurement : Measurement) (next : Procedure α)
  /-- Calls a collaborator. -/
  | call (call : Call) (next : Procedure α)

namespace Procedure

variable {α β : Type}

/-- One procedure after another. -/
def bind : Procedure α → (α → Procedure β) → Procedure β
  | done a, f => f a
  | halt reason, _ => halt reason
  | lookup g key next, f => lookup g key fun r => (next r).bind f
  | store g key location next, f => store g key location (next.bind f)
  | inspect next, f => inspect fun s => (next s).bind f
  | measure m next, f => measure m (next.bind f)
  | call c next, f => call c (next.bind f)

instance : Monad Procedure where
  pure := done
  bind := bind

/-- The procedure with its halt as a value. -/
def attempt : Procedure α → Procedure (Except Halt α)
  | done a => done (.ok a)
  | halt reason => done (.error reason)
  | lookup g key next => lookup g key fun r => (next r).attempt
  | store g key location next => store g key location next.attempt
  | inspect next => inspect fun s => (next s).attempt
  | measure m next => measure m next.attempt
  | call c next => call c next.attempt

/-- Refuses the request. -/
def refuse (reason : Refusal) : Procedure α := halt (.refused reason)

/-- A result, or the refusal of the request. -/
def ofExcept : Except Refusal α → Procedure α
  | .ok a => done a
  | .error reason => refuse reason

/-- A result, or a crash. -/
def risk : Except Crash α → Procedure α
  | .ok a => done a
  | .error crash => halt (.crashed crash)

/-- Calls a collaborator, which may crash. -/
def consult (c : Call) (outcome : Except Crash α) : Procedure α := call c (risk outcome)

end Procedure

/-- The state that all workers share, and the calls that were made, the latest first. -/
structure Shared where
  caches : Caches
  journal : Journal := []
  calls : List Call := []

namespace Procedure

variable {α β : Type}

/-- Whether a procedure has ended, and with what. -/
def outcome? : Procedure α → Option (Except Halt α)
  | done a => some (.ok a)
  | halt reason => some (.error reason)
  | _ => none

/-- The first step of a procedure; one that has ended stays as it is. -/
def step : Procedure α → Shared → Procedure α × Shared
  | done a, s => (done a, s)
  | halt reason, s => (halt reason, s)
  | lookup g key next, s =>
    let r := s.caches.lookup g key
    (next r.1, { s with caches := r.2 })
  | store g key location next, s => (next, { s with caches := s.caches.store g key location })
  | inspect next, s => (next s.caches.stats, s)
  | measure m next, s => (next, { s with journal := m :: s.journal })
  | call c next, s => (next, { s with calls := c :: s.calls })

/-- All steps of a procedure, without any steps of others in between. -/
def run : Procedure α → Shared → Except Halt α × Shared
  | done a, s => (.ok a, s)
  | halt reason, s => (.error reason, s)
  | lookup g key next, s =>
    let r := s.caches.lookup g key
    (next r.1).run { s with caches := r.2 }
  | store g key location next, s => next.run { s with caches := s.caches.store g key location }
  | inspect next, s => (next s.caches.stats).run s
  | measure m next, s => next.run { s with journal := m :: s.journal }
  | call c next, s => next.run { s with calls := c :: s.calls }

/-- A procedure runs as its first step followed by the run of the rest. -/
theorem run_step (p : Procedure α) (s : Shared) : (p.step s).1.run (p.step s).2 = p.run s := by
  cases p <;> rfl

end Procedure

end Wayfinding
