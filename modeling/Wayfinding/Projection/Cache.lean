import Wayfinding.Road.Path

/-!
# Projection caches

A cache remembers the locations of the coordinates that were touched last. A lookup and a store are
the two atomic accesses; what happens between them is up to other users of the cache.

Main definitions:
* `Cache.lookup`: finds a coordinate, and makes it the most recent one.
* `Cache.store`: remembers a location, and forgets the least recent one when there are too many.
* `CacheStats`: what is published about a cache.
-/

namespace Wayfinding

/-- How often a cache was asked, how often in vain, and how full it is. -/
structure CacheStats where
  calls : Nat
  misses : Nat
  size : Nat
  capacity : Nat
deriving DecidableEq, Repr, Inhabited

/-- The remembered locations, the most recently touched one first. -/
structure Cache where
  capacity : Nat
  entries : List (Coordinate × Location) := []
  calls : Nat := 0
  misses : Nat := 0
deriving DecidableEq, Inhabited

namespace Cache

/-- The location that is remembered for a coordinate. -/
def find? (c : Cache) (key : Coordinate) : Option Location :=
  (c.entries.find? fun e => e.1 = key).map (·.2)

/-- The entries of all other coordinates. -/
def others (c : Cache) (key : Coordinate) : List (Coordinate × Location) :=
  c.entries.filter fun e => e.1 ≠ key

/-- Asks for a coordinate: a hit becomes the most recent entry, a miss is counted. -/
def lookup (c : Cache) (key : Coordinate) : Option Location × Cache :=
  match c.find? key with
  | some location =>
    (some location, { c with entries := (key, location) :: c.others key, calls := c.calls + 1 })
  | none => (none, { c with calls := c.calls + 1, misses := c.misses + 1 })

/-- Makes a location the most recent entry; the least recent one is forgotten when there are more
than the capacity allows. -/
def store (c : Cache) (key : Coordinate) (location : Location) : Cache :=
  { c with entries := ((key, location) :: c.others key).take c.capacity }

/-- What is published about a cache. -/
def stats (c : Cache) : CacheStats := ⟨c.calls, c.misses, c.entries.length, c.capacity⟩

@[simp] theorem capacity_lookup (c : Cache) (key : Coordinate) :
    (c.lookup key).2.capacity = c.capacity := by
  unfold lookup
  split <;> rfl

@[simp] theorem capacity_store (c : Cache) (key : Coordinate) (location : Location) :
    (c.store key location).capacity = c.capacity := rfl

@[simp] theorem lookup_fst (c : Cache) (key : Coordinate) : (c.lookup key).1 = c.find? key := by
  unfold lookup
  split <;> simp_all

end Cache

/-- One cache for each graph. -/
structure Caches where
  pedestrian : Cache
  bicycle : Cache
  drive : Cache
deriving DecidableEq, Inhabited

namespace Caches

/-- Empty caches with a capacity for each graph. -/
def ofCapacities (capacity : Graph → Nat) : Caches where
  pedestrian := { capacity := capacity .pedestrian }
  bicycle := { capacity := capacity .bicycle }
  drive := { capacity := capacity .drive }

/-- The cache of a graph. -/
def get (c : Caches) : Graph → Cache
  | .pedestrian => c.pedestrian
  | .bicycle => c.bicycle
  | .drive => c.drive

/-- Replaces the cache of a graph. -/
def set (c : Caches) (g : Graph) (cache : Cache) : Caches :=
  match g with
  | .pedestrian => { c with pedestrian := cache }
  | .bicycle => { c with bicycle := cache }
  | .drive => { c with drive := cache }

/-- Asks the cache of a graph for a coordinate. -/
def lookup (c : Caches) (g : Graph) (key : Coordinate) : Option Location × Caches :=
  let r := (c.get g).lookup key
  (r.1, c.set g r.2)

/-- Remembers a location in the cache of a graph. -/
def store (c : Caches) (g : Graph) (key : Coordinate) (location : Location) : Caches :=
  c.set g ((c.get g).store key location)

/-- What is published about the cache of a graph. -/
def stats (c : Caches) (g : Graph) : CacheStats := (c.get g).stats

@[simp] theorem get_set_self (c : Caches) (g : Graph) (cache : Cache) :
    (c.set g cache).get g = cache := by
  cases g <;> rfl

@[simp] theorem get_set_of_ne (c : Caches) {g h : Graph} (cache : Cache) (hne : h ≠ g) :
    (c.set g cache).get h = c.get h := by
  cases g <;> cases h <;> simp_all [set, get]

end Caches

end Wayfinding
