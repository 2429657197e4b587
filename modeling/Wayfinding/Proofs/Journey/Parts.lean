import Wayfinding.Proofs.Journey.Timeline

/-!
# The parts of a bike-share trip

A bike-share trip is split at its two stations. Its parts on the streets lose nothing of the path
and repeat nothing but the points at the stations, and with the stops they take as long as the path.

Main definitions: `Path.stitch`, `Path.Tiles`.
Main lemmas: `Path.Tiles.items`, `Path.Tiles.stitch`, `JourneyQuery.parts_of_assemble`.
-/

namespace Wayfinding

open Procedure (Leads)

variable {P : Shared → Prop}

/-- One stretch of a list after another. -/
lemma drop_take_append {α : Type} (l : List α) {a b c : Nat} (hab : a ≤ b) (hbc : b ≤ c) :
    (l.take b).drop a ++ (l.take c).drop b = (l.take c).drop a := by
  have hdrop : l.drop b = (l.drop a).drop (b - a) := by
    rw [List.drop_drop, Nat.add_sub_cancel' hab]
  have hlen : c - a = (b - a) + (c - b) := by omega
  rw [List.drop_take, List.drop_take, List.drop_take, hdrop, hlen, List.take_add]

/-- A stretch begins with its first element. -/
lemma head?_stretch {α : Type} {l : List α} {a b : Nat} (h : a < b) :
    ((l.take b).drop a).head? = l[a]? := by
  rw [List.head?_drop, List.getElem?_take_of_lt h]

/-- A stretch ends with its last element. -/
lemma getLast?_stretch {α : Type} {l : List α} {a b : Nat} (hab : a ≤ b) (hb : b < l.length) :
    ((l.take (b + 1)).drop a).getLast? = l[b]? := by
  have hlen : a ≤ (l.take b).length := by
    rw [List.length_take]
    omega
  rw [List.take_add_one, List.getElem?_eq_getElem hb, Option.toList_some,
    List.drop_append_of_le_length hlen, List.getLast?_concat]

namespace Path

variable {path : Path} {instructions : Bool} {first : Nat} {m : Maneuver} {parts : List StreetPart}

/-- Stretches of a shape in one, where each begins with the point at which the last one ends. -/
def stitch : List (List Coordinate) → List Coordinate
  | [] => []
  | cs :: rest => cs ++ (stitch rest).tail

/-- The second stretch begins where the first one ends. -/
def Meet (cs cs' : List Coordinate) : Prop := ∃ c, cs.getLast? = some c ∧ cs'.head? = some c

/-- The parts are those of some legs one after the other, from a maneuver to the end of the path. -/
inductive Tiles (path : Path) (instructions : Bool) : Nat → List StreetPart → Prop where
  | last {first m part} :
    path.maneuvers[first]? = some m →
    part.items = PathItem.between path first path.maneuvers.length instructions →
    part.coordinates = path.shape.drop m.start →
    Tiles path instructions first [part]
  | cons {first next m m' part parts} :
    first ≤ next →
    path.maneuvers[first]? = some m →
    path.maneuvers[next]? = some m' →
    m.start ≤ m'.start →
    m'.start < path.shape.length →
    part.items = PathItem.between path first next instructions →
    part.coordinates = (path.shape.take (m'.start + 1)).drop m.start →
    Tiles path instructions next parts →
    Tiles path instructions first (part :: parts)

/-- Parts that tile the path have the items of all its maneuvers. -/
lemma Tiles.items (h : path.Tiles instructions first parts) :
    parts.flatMap (·.items) =
      PathItem.between path first path.maneuvers.length instructions := by
  induction h with
  | last _ hitems _ => rw [List.flatMap_singleton, hitems]
  | cons hle _ hnext _ _ hitems _ _ ih =>
    obtain ⟨hlt, -⟩ := List.getElem?_eq_some_iff.1 hnext
    rw [List.flatMap_cons, hitems, ih]
    exact drop_take_append _ hle hlt.le

/-- Stitched together they have its shape, from where the first part begins. -/
lemma Tiles.stitch (h : path.Tiles instructions first parts)
    (hm : path.maneuvers[first]? = some m) :
    Path.stitch (parts.map (·.coordinates)) = path.shape.drop m.start := by
  induction h generalizing m with
  | last hfirst _ hcoordinates =>
    cases hfirst.symm.trans hm
    simp only [List.map_cons, List.map_nil, Path.stitch, List.tail_nil, List.append_nil,
      hcoordinates]
  | @cons _ _ _ m' _ _ _ hfirst hnext hstart hlt _ hcoordinates _ ih =>
    cases hfirst.symm.trans hm
    -- the rest begins at the last point of this part, which is dropped from the rest
    rw [List.map_cons, Path.stitch, ih hnext, hcoordinates, List.tail_drop]
    have happend := drop_take_append path.shape (Nat.le_succ_of_le hstart) hlt
    rwa [List.take_length] at happend

/-- The first part begins at the first maneuver. -/
lemma Tiles.exists_head (h : path.Tiles instructions first parts)
    (hm : path.maneuvers[first]? = some m) :
    ∃ part rest, parts = part :: rest ∧ part.coordinates.head? = path.shape[m.start]? := by
  cases h with
  | last hfirst _ hcoordinates =>
    cases hfirst.symm.trans hm
    exact ⟨_, [], rfl, by rw [hcoordinates, List.head?_drop]⟩
  | cons _ hfirst _ hstart _ _ hcoordinates _ =>
    cases hfirst.symm.trans hm
    exact ⟨_, _, rfl, by rw [hcoordinates, head?_stretch (Nat.lt_succ_of_le hstart)]⟩

/-- Each part ends where the next one begins. -/
lemma Tiles.meet (h : path.Tiles instructions first parts) :
    (parts.map (·.coordinates)).IsChain Meet := by
  induction h with
  | last _ _ _ => exact .singleton _
  | @cons _ _ _ m' _ _ _ _ hnext hstart hlt _ hcoordinates htiles ih =>
    obtain ⟨part, rest, rfl, hhead⟩ := htiles.exists_head hnext
    refine .cons_cons ⟨path.shape[m'.start], ?_, ?_⟩ ih
    · simp only [hcoordinates, getLast?_stretch hstart hlt, List.getElem?_eq_getElem hlt]
    · simp only [hhead, List.getElem?_eq_getElem hlt]

/-- Seconds of some maneuvers, with what the stations cost. -/
def seconds (maneuvers : List Maneuver) : Nat := maneuvers.foldr (fun m time => m.time + time) 0

/-- Some maneuvers and others take the time of both together. -/
lemma seconds_append (ms ms' : List Maneuver) : seconds (ms ++ ms') = seconds ms + seconds ms' := by
  induction ms with
  | nil => exact (Nat.zero_add _).symm
  | cons m ms ih =>
    change m.time + seconds (ms ++ ms') = m.time + seconds ms + seconds ms'
    rw [ih, Nat.add_assoc]

/-- A path takes as long before and after a maneuver as in one. -/
lemma seconds_part {a b c : Nat} (hab : a ≤ b) (hbc : b ≤ c) :
    seconds (path.part a b) + seconds (path.part b c) = seconds (path.part a c) := by
  rw [← seconds_append]
  exact congrArg seconds (drop_take_append path.maneuvers hab hbc)

/-- All maneuvers are a part of the path. -/
lemma part_zero_length : path.part 0 path.maneuvers.length = path.maneuvers := by
  rw [part, List.take_length, List.drop_zero]

/-- Where in the shape the maneuver at an index starts. -/
def startOf (path : Path) (i : Nat) : Nat := (path.maneuvers[i]?.map (·.start)).getD 0

/-- A maneuver begins at its start. -/
lemma startOf_eq {i : Nat} (hm : path.maneuvers[i]? = some m) : path.startOf i = m.start := by
  rw [startOf, hm]
  rfl

/-- A bike is first taken at the maneuver `r` and first returned at `p`, after which the path goes
on. -/
structure TakesBike (path : Path) (r p : Nat) : Prop where
  taken : Trip.find? path.maneuvers .rent = some r
  returned : Trip.find? path.maneuvers .putBack = some p
  later : r < p
  goesOn : p + 1 < path.maneuvers.length
  walked : path.startOf 0 ≤ path.startOf r
  ridden : path.startOf r ≤ path.startOf p

/-- The time of the stops is counted on the legs after them, and a message can carry the time of
each section. -/
structure CountsStops (path : Path) (costs : BikeShareCosts) (r p : Nat) : Prop where
  rent : costs.rentDuration ≤ seconds (path.part r p)
  putBack : costs.returnDuration ≤ seconds (path.part p path.maneuvers.length)
  carried : ∀ d ∈ [seconds (path.part 0 r), costs.rentDuration,
      seconds (path.part r p) - costs.rentDuration, costs.returnDuration,
      seconds (path.part p path.maneuvers.length) - costs.returnDuration], d ≤ 2147483647

/-- The walk, the ride and the walk on are all of the path. -/
lemma TakesBike.seconds_eq {r p : Nat} (ht : path.TakesBike r p) :
    seconds (path.part 0 r) + seconds (path.part r p) +
      seconds (path.part p path.maneuvers.length) = seconds path.maneuvers := by
  have hlast : p ≤ path.maneuvers.length := Nat.le_of_lt (Nat.lt_of_succ_lt ht.goesOn)
  rw [seconds_part r.zero_le ht.later.le, seconds_part p.zero_le hlast, part_zero_length]

end Path

namespace PathItem

variable {path : Path} {i : Nat} {m : Maneuver}

/-- A maneuver that has something to say also tells how far to go on, unless it is the last one. -/
lemma instruction_withInstruction (item : PathItem) (shape : List Coordinate) (isLast : Bool)
    (htext : m.instruction.getD "" ≠ "") :
    (item.withInstruction shape isLast m).instruction =
      bif isLast then m.instruction.getD "" else keepGoing (m.instruction.getD "") m.length := by
  unfold withInstruction
  split
  · next h => exact absurd h htext
  · cases isLast <;> rfl

/-- How far to go on is said in whole meters, after what is to be done. -/
lemma keepGoing_eq (text : String) (length : Binary64) : keepGoing text length =
    text ++ " Keep going for " ++ toString length.toSigned64 ++ " m." := rfl

/-- With instructions, a maneuver that has something to say tells how far to go on, unless it is the
last one of the path. -/
lemma instruction_ofPath (hm : path.maneuvers[i]? = some m) (htext : m.instruction.getD "" ≠ "") :
    ((ofPath path true)[i]?).map (·.instruction) = some
      (if i + 1 = path.maneuvers.length then m.instruction.getD ""
      else m.instruction.getD "" ++ " Keep going for " ++
        toString (m.lengthKm * .ofNat 1000).toSigned64 ++ " m.") := by
  unfold ofPath
  rw [List.getElem?_mapIdx, hm]
  simp only [Option.map_some, ofManeuver, if_true, instruction_withInstruction _ _ _ htext,
    Bool.cond_decide, keepGoing_eq, Maneuver.length]

/-- The items between all maneuvers are those of the path. -/
lemma between_zero_length (instructions : Bool) :
    between path 0 path.maneuvers.length instructions = ofPath path instructions := by
  have hlength : (ofPath path instructions).length = path.maneuvers.length := List.length_mapIdx
  rw [between, List.drop_zero, ← hlength, List.take_length]

end PathItem

namespace Section

/-- What a section does on the streets, unless it is a stop at a station. -/
def streetPart? (s : Section) : Option StreetPart :=
  if s.kind = SectionKind.street.number then s.street else none

/-- Without heights, the part of a section on streets is the same but for them. -/
lemma streetPart?_bare (s : Section) :
    s.bare.streetPart? = s.streetPart?.map fun part => { part with elevations := [] } := by
  unfold streetPart?
  by_cases h : s.kind = SectionKind.street.number
  · rw [if_pos h]
    exact if_pos h
  · rw [if_neg h]
    exact if_neg h

end Section

/-- The parts of the journey on the streets. -/
def Journey.streetParts (j : Journey) : List StreetPart := j.sections.filterMap Section.streetPart?

namespace Trip

variable {maneuvers : List Maneuver} {action : StationAction} {i : Nat}

/-- The first maneuver with a station action. -/
lemma of_find? (h : find? maneuvers action = some i) :
    (∃ m, maneuvers[i]? = some m ∧ m.action = action) ∧
      ∀ j < i, ∀ m, maneuvers[j]? = some m → m.action ≠ action := by
  obtain ⟨hi, haction, hfirst⟩ := List.findIdx?_eq_some_iff_getElem.1 h
  refine ⟨⟨_, List.getElem?_eq_getElem hi, of_decide_eq_true haction⟩, fun j hj m hm => ?_⟩
  obtain ⟨_, rfl⟩ := List.getElem?_eq_some_iff.1 hm
  simpa using hfirst j hj

end Trip

namespace Leg

variable {path : Path} {costs : BikeShareCosts} {instructions stations : Bool}
  {first next r p : Nat} {visit : StationVisit} {start m' : Maneuver} {s : Section}
  {ss : List Section} {parts : List StreetPart}

/-! ### Sections on the streets -/

/-- The part of a section on streets has the items and the shape between its maneuvers. -/
lemma streetPart?_of_street
    (h : streetSection path costs instructions first next stations = .ok s.bare) :
    ∃ start bound target arrival part, path.maneuvers[first]? = some start ∧
      path.finish next = .ok (bound, target, arrival) ∧ s.streetPart? = some part ∧
      part.items = PathItem.between path first next instructions ∧
      part.coordinates = (path.shape.take bound).drop start.start := by
  obtain ⟨start, bound, target, arrival, _, hstart, hfinish, -, -, -, hs⟩ := streetSection_eq_ok h
  have hpart := s.streetPart?_bare
  rw [hs, Section.streetPart?, if_pos rfl, eq_comm, Option.map_eq_some_iff] at hpart
  obtain ⟨part, hpart, heq⟩ := hpart
  exact ⟨start, bound, target, arrival, part, hstart, hfinish, hpart,
    congrArg StreetPart.items heq, congrArg StreetPart.coordinates heq⟩

/-- The last leg covers the rest of the path. -/
lemma tiles_last
    (h : streetSection path costs instructions first path.maneuvers.length stations = .ok s.bare) :
    ∃ part, s.streetPart? = some part ∧ path.Tiles instructions first [part] := by
  obtain ⟨start, bound, _, _, part, hstart, hfinish, hpart, hitems, hcoordinates⟩ :=
    streetPart?_of_street h
  obtain ⟨rfl, -, -⟩ := Path.finish_of_le le_rfl hfinish
  rw [List.take_length] at hcoordinates
  exact ⟨part, hpart, .last hstart hitems hcoordinates⟩

/-- An earlier leg covers the path up to the next one. -/
lemma tiles_cons (h : streetSection path costs instructions first next stations = .ok s.bare)
    (hle : first ≤ next) (hstart : path.maneuvers[first]? = some start)
    (hnext : path.maneuvers[next]? = some m') (hshape : start.start ≤ m'.start)
    (htiles : path.Tiles instructions next parts) :
    ∃ part, s.streetPart? = some part ∧ path.Tiles instructions first (part :: parts) := by
  obtain ⟨start', bound, _, arrival, part, hstart', hfinish, hpart, hitems, hcoordinates⟩ :=
    streetPart?_of_street h
  cases hstart.symm.trans hstart'
  obtain ⟨hlt, -⟩ := List.getElem?_eq_some_iff.1 hnext
  obtain ⟨rfl, hpoint, harrival⟩ := Path.finish_of_lt hlt hfinish
  cases hnext.symm.trans harrival
  obtain ⟨hbound, -⟩ := List.getElem?_eq_some_iff.1 hpoint
  exact ⟨part, hpart, .cons hle hstart hnext hshape hbound hitems hcoordinates htiles⟩

/-- A stop has no part on streets. -/
lemma streetPart?_of_station
    (h : (station r visit).toSection path costs instructions = .ok s.bare) :
    s.streetPart? = none := by
  obtain ⟨hkind, -, -⟩ := stationSection_eq_ok h
  exact if_neg hkind

/-! ### Time -/

/-- A leg takes what its maneuvers take, less what was counted for the stop before it. -/
lemma duration_of_street
    (h : streetSection path costs instructions first next stations = .ok s.bare)
    (hstart : path.maneuvers[first]? = some start)
    (hcost : stationCost costs start.action ≤ Path.seconds (path.part first next))
    (hmax : Path.seconds (path.part first next) - stationCost costs start.action ≤ 2147483647) :
    s.duration.toInt =
      (Path.seconds (path.part first next) - stationCost costs start.action : Nat) := by
  obtain ⟨start', _, _, _, _, hstart', -, -, -, -, hs⟩ := streetSection_eq_ok h
  cases hstart.symm.trans hstart'
  have hduration : s.duration = time costs start (path.part first next) :=
    congrArg Section.duration hs
  rw [hduration, time, toInt_cut]
  change min _ (max 0 ((Path.seconds (path.part first next) : Int) - _)) = _
  omega

/-- A stop lasts as long as its costs say. -/
lemma duration_of_station
    (h : (station r visit).toSection path costs instructions = .ok s.bare)
    (hmax : stopTime costs visit ≤ 2147483647) :
    s.duration.toInt = stopTime costs visit := by
  obtain ⟨-, hduration, -⟩ := stationSection_eq_ok h
  change s.duration = _ at hduration
  rw [hduration, toInt_cut]
  omega

/-! ### The legs of a bike-share trip -/

/-- A bike-share trip has a section for each part and each stop. -/
lemma sections_of_bikeShare {R : Leg → Section → Prop} {count : Nat} (hp : p + 1 < count)
    (h : List.Forall₂ R ((Trip.bikeShare r p).legs count) ss) :
    ∃ walk rent ride putBack rest, ss = walk ++ [rent, ride, putBack, rest] ∧
      (r = 0 ∧ walk = [] ∨ 0 < r ∧ ∃ s, walk = [s] ∧ R (.street 0 r true) s) ∧
      R (.station r .rent) rent ∧ R (.street r p true) ride ∧
      R (.station p .putBack) putBack ∧ R (.street p count true) rest := by
  simp only [Trip.legs, if_pos hp] at h
  split at h
  · next hr =>
    obtain _ | ⟨h0, _ | ⟨h1, _ | ⟨h2, _ | ⟨h3, _ | ⟨h4, _ | _⟩⟩⟩⟩⟩ := h
    exact ⟨[_], _, _, _, _, rfl, .inr ⟨hr, _, rfl, h0⟩, h1, h2, h3, h4⟩
  · next hr =>
    obtain _ | ⟨h1, _ | ⟨h2, _ | ⟨h3, _ | ⟨h4, _ | _⟩⟩⟩⟩ := h
    exact ⟨[], _, _, _, _, rfl, .inl ⟨Nat.eq_zero_of_not_pos hr, rfl⟩, h1, h2, h3, h4⟩

/-- The sections on the streets cover the path. -/
lemma tiles_of_bikeShare (ht : path.TakesBike r p)
    (h : List.Forall₂ (fun leg s => leg.toSection path costs instructions = .ok s.bare)
      ((Trip.bikeShare r p).legs path.maneuvers.length) ss) :
    path.Tiles instructions 0 (ss.filterMap Section.streetPart?) := by
  obtain ⟨walk, rent, ride, putBack, rest, rfl, hwalk, hrent, hride, hputBack, hrest⟩ :=
    sections_of_bikeShare ht.goesOn h
  obtain ⟨⟨mr, hmr, -⟩, -⟩ := Trip.of_find? ht.taken
  obtain ⟨⟨mp, hmp, -⟩, -⟩ := Trip.of_find? ht.returned
  have hwalked := ht.walked
  have hridden := ht.ridden
  rw [Path.startOf_eq hmr] at hwalked hridden
  rw [Path.startOf_eq hmp] at hridden
  -- a tiling begins with its last part
  obtain ⟨after, hafter, hlast⟩ := tiles_last hrest
  obtain ⟨onBike, honBike, hmiddle⟩ := tiles_cons hride ht.later.le hmr hmp hridden hlast
  have hstops : [rent, ride, putBack, rest].filterMap Section.streetPart? = [onBike, after] := by
    simp only [List.filterMap_cons, List.filterMap_nil, streetPart?_of_station hrent, honBike,
      streetPart?_of_station hputBack, hafter]
  rw [List.filterMap_append, hstops]
  obtain ⟨rfl, rfl⟩ | ⟨hr, s, rfl, hs⟩ := hwalk
  · exact hmiddle
  · obtain ⟨hlt, -⟩ := List.getElem?_eq_some_iff.1 hmr
    have hm := List.getElem?_eq_getElem (hr.trans hlt)
    rw [Path.startOf_eq hm] at hwalked
    obtain ⟨before, hbefore, hall⟩ := tiles_cons hs r.zero_le hm hmr hwalked hmiddle
    simp only [List.filterMap_cons, List.filterMap_nil, hbefore]
    exact hall

/-- A path on which a bike is taken later starts without a stop. -/
lemma stationCost_start (costs : BikeShareCosts) (ht : path.TakesBike r p) (hr : 0 < r)
    (hm : path.maneuvers[0]? = some start) :
    stationCost costs start.action = 0 := by
  obtain ⟨-, hnoRent⟩ := Trip.of_find? ht.taken
  obtain ⟨-, hnoPutBack⟩ := Trip.of_find? ht.returned
  have hrent := hnoRent 0 hr start hm
  have hputBack := hnoPutBack 0 (hr.trans ht.later) start hm
  cases haction : start.action with
  | none => rfl
  | rent => exact absurd haction hrent
  | putBack => exact absurd haction hputBack

/-- The walk to the first station, if there is one, has all of its time. -/
lemma total_walk {walk : List Section} (ht : path.TakesBike r p)
    (hmax : Path.seconds (path.part 0 r) ≤ 2147483647)
    (h : r = 0 ∧ walk = [] ∨ 0 < r ∧ ∃ s, walk = [s] ∧
      (street 0 r true).toSection path costs instructions = .ok s.bare) :
    Section.total walk = Path.seconds (path.part 0 r) := by
  obtain ⟨rfl, rfl⟩ | ⟨hr, s, rfl, hs⟩ := h
  · rfl
  · have hlt : 0 < path.maneuvers.length := Nat.zero_lt_of_lt ht.goesOn
    have hm := List.getElem?_eq_getElem hlt
    have hcost := stationCost_start costs ht hr hm
    have hduration := duration_of_street hs hm (by omega) (by omega)
    rw [Section.total_cons, Section.total_nil, hduration, hcost]
    rfl

/-- The sections take as long as the path. -/
lemma total_of_bikeShare (ht : path.TakesBike r p) (hc : path.CountsStops costs r p)
    (h : List.Forall₂ (fun leg s => leg.toSection path costs instructions = .ok s.bare)
      ((Trip.bikeShare r p).legs path.maneuvers.length) ss) :
    Section.total ss = Path.seconds path.maneuvers := by
  obtain ⟨walk, rent, ride, putBack, rest, rfl, hwalk, hrent, hride, hputBack, hrest⟩ :=
    sections_of_bikeShare ht.goesOn h
  obtain ⟨⟨mr, hmr, hmrAction⟩, -⟩ := Trip.of_find? ht.taken
  obtain ⟨⟨mp, hmp, hmpAction⟩, -⟩ := Trip.of_find? ht.returned
  have hcarried := hc.carried
  simp only [List.forall_mem_cons] at hcarried
  obtain ⟨hmax₀, hmax₁, hmax₂, hmax₃, hmax₄, -⟩ := hcarried
  have hrentTime := hc.rent
  have hputBackTime := hc.putBack
  have hrentCost : stationCost costs mr.action = costs.rentDuration := by
    rw [hmrAction]
    rfl
  have hputBackCost : stationCost costs mp.action = costs.returnDuration := by
    rw [hmpAction]
    rfl
  have hrent := duration_of_station hrent hmax₁
  have hputBack := duration_of_station hputBack hmax₃
  have hride := duration_of_street hride hmr (by omega) (by omega)
  have hrest := duration_of_street hrest hmp (by omega) (by omega)
  have hparts := ht.seconds_eq
  rw [Section.total_append, total_walk ht hmax₀ hwalk]
  simp only [Section.total_cons, Section.total_nil, hrent, hride, hputBack, hrest, stopTime]
  -- what is taken off the ride and the walk on is the time of the stops
  omega

end Leg

namespace JourneyQuery

variable {q : JourneyQuery} {path : Path} {costing : Costing} {elevation : Option ElevationSource}
  {ss : List Section} {j : Journey} {r p : Nat}

/-- A journey has the parts of its sections. -/
lemma streetParts_journey :
    (q.journey path ss).streetParts = ss.filterMap Section.streetPart? :=
  filterMap_journey (fun _ _ _ => rfl) (fun _ _ => rfl)

/-- Totals change nothing about them. -/
lemma streetParts_withTotals (t : Totals) : (j.withTotals t).streetParts = j.streetParts := rfl

/-- Let a bike-share path be split at its two stations. The items of its sections on the streets are
those of the whole path, of which only the last one does not tell for how many meters to keep going;
the shapes of these sections meet at the stations and together are that of the path; and all
sections together take as long as the path. -/
theorem parts_of_assemble (hmode : costing.mode = .bss) (ht : path.TakesBike r p)
    (h : (q.assemble path costing elevation).Leads P (.done j)) :
    (j.streetParts.flatMap (·.items) =
        PathItem.between path 0 path.maneuvers.length q.instructions ∧
      (q.instructions = true → ∀ i m, path.maneuvers[i]? = some m → m.instruction.getD "" ≠ "" →
        ((j.streetParts.flatMap (·.items))[i]?).map (·.instruction) = some
          (if i + 1 = path.maneuvers.length then m.instruction.getD ""
          else m.instruction.getD "" ++ " Keep going for " ++
            toString (m.lengthKm * .ofNat 1000).toSigned64 ++ " m."))) ∧
    ((j.streetParts.map (·.coordinates)).IsChain Path.Meet ∧
      Path.stitch (j.streetParts.map (·.coordinates)) = path.shape.drop (path.startOf 0)) ∧
    (path.CountsStops costing.bikeShare r p →
      Section.total j.sections = Path.seconds path.maneuvers) := by
  obtain ⟨trip, ss, t, htrip, hss, -, rfl⟩ := of_assemble h
  have hbike : Trip.ofPath costing.mode path = .ok (.bikeShare r p) := by
    rw [hmode, Trip.ofPath, Trip.classify, ht.taken, ht.returned]
    exact if_pos ht.later
  cases hbike.symm.trans htrip
  have htiles : path.Tiles q.instructions 0 ((q.journey path ss).withTotals t).streetParts := by
    rw [streetParts_withTotals, streetParts_journey]
    exact Leg.tiles_of_bikeShare ht hss
  have hitems := htiles.items
  have hlt : 0 < path.maneuvers.length := Nat.zero_lt_of_lt ht.goesOn
  have hstart := List.getElem?_eq_getElem hlt
  refine ⟨⟨hitems, fun hinstructions i m hm htext => ?_⟩, ⟨htiles.meet, ?_⟩, fun hc => ?_⟩
  · rw [hitems, hinstructions, PathItem.between_zero_length]
    exact PathItem.instruction_ofPath hm htext
  · rw [htiles.stitch hstart, Path.startOf_eq hstart]
  · rw [Journey.sections_withTotals, total_journey]
    exact Leg.total_of_bikeShare ht hc hss

/-- The hired bike: the walk, the ride and the walk on take all of the 340 seconds, and the last
maneuver is the only one after which there is nowhere to go on to. -/
theorem parts_hire :
    ∃ j, (assemble ⟨1000, false, true⟩ hire hireCosting none).Leads (fun _ => True) (.done j) ∧
      j.sections.length = 5 ∧ hire.TakesBike 1 2 ∧ hire.CountsStops hireCosting.bikeShare 1 2 ∧
      j.streetParts.flatMap (·.items) = PathItem.between hire 0 4 true ∧
      (j.streetParts.flatMap (·.items)).map (·.instruction) =
        ["Walk. Keep going for 0 m.", "Ride. Keep going for 0 m.", "Walk on. Keep going for 0 m.",
          "You have arrived."] ∧
      Path.stitch (j.streetParts.map (·.coordinates)) = hire.shape ∧
      Section.total j.sections = 340 := by
  have hrun : ((assemble ⟨1000, false, true⟩ hire hireCosting none).run
      { caches := .ofCapacities fun _ => 1 }).1.map (fun j => (j.sections.length,
        (j.streetParts.flatMap (·.items)).map (·.instruction))) =
      .ok (5, ["Walk. Keep going for 0 m.", "Ride. Keep going for 0 m.",
        "Walk on. Keep going for 0 m.", "You have arrived."]) := by
    decide +kernel
  obtain ⟨j, hleads, hvalues⟩ := Procedure.exists_leads_of_run hrun
  obtain ⟨hlength, htexts⟩ := Prod.mk.inj hvalues
  have htakes : hire.TakesBike 1 2 :=
    ⟨by decide, by decide, by decide, by decide, by decide, by decide⟩
  have hcounts : hire.CountsStops hireCosting.bikeShare 1 2 := ⟨by decide, by decide, by decide⟩
  obtain ⟨⟨hitems, -⟩, ⟨-, hstitch⟩, htotal⟩ := parts_of_assemble rfl htakes hleads
  exact ⟨j, hleads, hlength, htakes, hcounts, hitems, htexts, hstitch, htotal hcounts⟩

end JourneyQuery

end Wayfinding
