/-!
# Travel modes

A request names one of five modes. Each mode travels on one of three graphs, and quantities that
depend on the mode are kept in a `PerMode`.
-/

namespace Wayfinding

/-- A graph of the road network. -/
inductive Graph where
  | pedestrian
  | bicycle
  | drive
deriving DecidableEq, Repr, Inhabited

namespace Graph

/-- The name under which measurements of the graph are published. -/
def label : Graph → String
  | pedestrian => "walking"
  | bicycle => "bike"
  | drive => "car"

/-- All graphs, in the order in which they are reported. -/
def all : List Graph := [pedestrian, bicycle, drive]

end Graph

/-- A way of travelling that a request may ask for; `bss` is a bike taken from and returned to
bike-share stations. -/
inductive Mode where
  | walking
  | bike
  | bss
  | car
  | taxi
deriving DecidableEq, Repr, Inhabited

namespace Mode

/-- All modes, in the order in which they are checked. -/
def all : List Mode := [walking, bike, bss, car, taxi]

/-- The name of a mode in requests. -/
def name : Mode → String
  | walking => "walking"
  | bike => "bike"
  | bss => "bss"
  | car => "car"
  | taxi => "taxi"

instance : ToString Mode := ⟨name⟩

/-- The mode with a given name. -/
def ofName? (s : String) : Option Mode := all.find? fun m => m.name = s

/-- The graph on which a mode looks for its endpoints; bike-share trips start and end on foot. -/
def graph : Mode → Graph
  | walking | bss => .pedestrian
  | bike => .bicycle
  | car | taxi => .drive

/-- Every mode is found under its name. -/
theorem ofName?_name (m : Mode) : ofName? m.name = some m := by
  cases m <;> decide

end Mode

/-- One value for each mode. -/
structure PerMode (α : Type) where
  walking : α
  bike : α
  bss : α
  car : α
  taxi : α
deriving DecidableEq, Repr, Inhabited

namespace PerMode

variable {α : Type}

/-- The value of a mode. -/
def get (p : PerMode α) : Mode → α
  | .walking => p.walking
  | .bike => p.bike
  | .bss => p.bss
  | .car => p.car
  | .taxi => p.taxi

/-- The same value for all modes. -/
def uniform (a : α) : PerMode α := ⟨a, a, a, a, a⟩

end PerMode

end Wayfinding
