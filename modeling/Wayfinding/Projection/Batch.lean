import Wayfinding.Answer.Procedure

/-!
# Batch projection

A list of coordinates is projected onto the network, each distinct coordinate at most once as long
as it is found, with or without the cache of the graph.

Main definitions:
* `Projections`: the locations that were found, by coordinate.
* `Projections.ofCoordinates`: the projection of a list.
-/

namespace Wayfinding

/-- Locations by coordinate, in the order in which they were found. -/
abbrev Projections := List (Coordinate × Location)

namespace Projections

/-- The location of a coordinate. -/
def find? (found : Projections) (c : Coordinate) : Option Location :=
  (List.find? (fun e => e.1 = c) found).map (·.2)

/-- Whether a coordinate has a location. -/
def has (found : Projections) (c : Coordinate) : Bool := found.any fun e => e.1 = c

/-- Asks the engine for the location of a coordinate. -/
def consult (engine : Engine) (costing : Costing) (c : Coordinate) : Procedure (Option Location) :=
  .consult (.project c costing.mode) (engine.project c costing)

/-- Remembers a location that was found. -/
def remember (graph : Graph) (c : Coordinate) : Option Location → Procedure (Option Location)
  | some location => .store graph c location (pure (some location))
  | none => pure none

/-- The location of a coordinate from the cache, and from the engine when the cache has none; what
is not found is not remembered. -/
def consultCached (engine : Engine) (costing : Costing) (c : Coordinate) :
    Procedure (Option Location) :=
  .lookup costing.mode.graph c fun
    | some location => pure (some location)
    | none => do remember costing.mode.graph c (← consult engine costing c)

/-- The location of a coordinate, with or without the cache. -/
def locate (engine : Engine) (costing : Costing) (useCache : Bool) (c : Coordinate) :
    Procedure (Option Location) :=
  if useCache then consultCached engine costing c else consult engine costing c

/-- Adds what was found for a coordinate. -/
def insert (found : Projections) (c : Coordinate) : Option Location → Projections
  | some location => found ++ [(c, location)]
  | none => found

/-- Adds the coordinates of a list that are not yet found. -/
def extend (engine : Engine) (costing : Costing) (useCache : Bool) (found : Projections) :
    List Coordinate → Procedure Projections
  | [] => pure found
  | c :: cs =>
    if found.has c then extend engine costing useCache found cs
    else do
      let location ← locate engine costing useCache c
      extend engine costing useCache (found.insert c location) cs

/-- The projection of a list of coordinates. -/
def ofCoordinates (engine : Engine) (costing : Costing) (useCache : Bool)
    (cs : List Coordinate) : Procedure Projections :=
  extend engine costing useCache [] cs

end Projections

end Wayfinding
