import Wayfinding.Road.Engine

/-!
# Engines with fixed answers

Engines for trying out the service: one whose answers are given beforehand, and a wrapper that lets
any engine fail on chosen calls.

Main definitions: `Engine.fixed` and `Engine.failing`.
-/

namespace Wayfinding.Engine

/-- An engine whose locations are moved by an offset and whose other answers are given. -/
def fixed (offset : Coordinate) (path : Option Path) (cells : List TimeDistance) : Engine where
  project c _ := .ok (some ⟨c, ⟨c.lon + offset.lon, c.lat + offset.lat⟩⟩)
  search _ _ _ := .ok path
  searchMatrix _ _ _ _ := .ok cells

/-- An engine that crashes at some coordinates and perhaps in every search, and that finds nothing
at others. -/
def failing (e : Engine) (crashes : List (Coordinate × Crash)) (missing : List Coordinate)
    (searchCrash : Option Crash) : Engine where
  project c costing :=
    match crashes.find? fun entry => entry.1 = c with
    | some (_, crash) => .error crash
    | none => if missing.contains c then .ok none else e.project c costing
  search origin destination costing :=
    match searchCrash with
    | some crash => .error crash
    | none => e.search origin destination costing
  searchMatrix := e.searchMatrix

end Wayfinding.Engine
