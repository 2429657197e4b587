import Wayfinding.Proofs.Journey.Parts

/-!
# How the sections of a bike-share journey hang together

A section on the streets takes its ends from the maneuvers around it, and a stop at a station has
an address on one side and the station on the other. In a bike-share journey they agree: each
section ends at the very place where the next one starts, a point of interest from the one station
to the other and an address everywhere else.

Main definitions: `PlaceObject.IsAddress`, `PlaceObject.IsStation`, `Path.itinerary`,
`Journey.Linked`.
Main lemmas: `Leg.shows_of_toSection`, `Path.Rides.part_legs`, `JourneyQuery.linked_of_assemble`.
-/

namespace Wayfinding

open Procedure (Leads)

variable {P : Shared → Prop}

/-! ### Places in full -/

namespace PlaceObject

variable {place place' : PlaceObject} {c : Coordinate} {m : Maneuver}

/-- The place is the address at a coordinate, on the street of a maneuver. -/
structure IsAddress (place : PlaceObject) (c : Coordinate) (m : Maneuver) : Prop where
  /-- The number that stands for addresses. -/
  kind : place.kind = 1
  name : place.name = m.streetName.getD ""
  /-- The longitude and the latitude with five decimal places. -/
  uri : place.uri = String.ofList (c.lon.fixed 5 ++ ';' :: c.lat.fixed 5)
  address : place.address = some
    { uri := String.ofList (c.lon.fixed 5 ++ ';' :: c.lat.fixed 5)
      name := m.streetName.getD ""
      label := m.streetName.getD ""
      coord := some c }
  poi : place.poi = none

/-- The place is the bike-share station of a maneuver, at a coordinate. A station that is not known
has no name and the number zero. -/
structure IsStation (place : PlaceObject) (c : Coordinate) (m : Maneuver) : Prop where
  /-- The number that stands for points of interest. -/
  kind : place.kind = 2
  name : place.name = m.streetName.getD ""
  uri : place.uri = "poi:osm:node:" ++ toString (m.station.getD {}).nodeId
  address : place.address = none
  poi : place.poi = some
    { uri := "poi:osm:node:" ++ toString (m.station.getD {}).nodeId
      name := (m.station.getD {}).name
      label := (m.station.getD {}).name
      coord := some c
      kind := some ⟨"poi_type:amenity:bicycle_rental", "Bicycle Rental Station"⟩
      properties :=
        [⟨"amenity", "bicycle_rental"⟩,
          ⟨"capacity", toString (m.station.getD {}).capacity⟩,
          ⟨"description", m.streetName.getD ""⟩,
          ⟨"name", (m.station.getD {}).name⟩,
          ⟨"network", (m.station.getD {}).network⟩,
          ⟨"operator", (m.station.getD {}).operator⟩,
          ⟨"ref", (m.station.getD {}).reference⟩]
      address := some
        { uri := String.ofList (c.lon.fixed 5 ++ ';' :: c.lat.fixed 5)
          name := m.streetName.getD ""
          label := m.streetName.getD ""
          coord := some c } }

/-- Nothing about an address is left open. -/
lemma IsAddress.unique (h : place.IsAddress c m) (h' : place'.IsAddress c m) : place = place' := by
  cases place
  cases place'
  simp only [mk.injEq]
  exact ⟨h.name.trans h'.name.symm, h.uri.trans h'.uri.symm, h.kind.trans h'.kind.symm,
    h.address.trans h'.address.symm, h.poi.trans h'.poi.symm⟩

/-- Nothing about a station is left open. -/
lemma IsStation.unique (h : place.IsStation c m) (h' : place'.IsStation c m) : place = place' := by
  cases place
  cases place'
  simp only [mk.injEq]
  exact ⟨h.name.trans h'.name.symm, h.uri.trans h'.uri.symm, h.kind.trans h'.kind.symm,
    h.address.trans h'.address.symm, h.poi.trans h'.poi.symm⟩

end PlaceObject

/-- What a message says about the address of a maneuver. -/
lemma Endpoint.isAddress_place (c : Coordinate) (m : Maneuver) :
    (ofManeuver c m).place.IsAddress c m :=
  ⟨rfl, rfl, rfl, rfl, rfl⟩

/-- What a message says about the station of a maneuver. -/
lemma Endpoint.isStation_place (c : Coordinate) (m : Maneuver) :
    (stationOf c m).place.IsStation c m :=
  ⟨rfl, rfl, rfl, rfl, rfl⟩

/-! ### Itineraries -/

/-- Where a part of a bike-share trip starts or ends. -/
inductive Stop where
  /-- The address where a maneuver starts. -/
  | address (index : Nat)
  /-- The bike-share station where a maneuver starts. -/
  | station (index : Nat)
  /-- The address at the end of the path. -/
  | finish

namespace Path

variable {path : Path} {r p : Nat} {stop : Stop} {place place' : PlaceObject}
  {parts : List (SectionKind × Stop × Stop)} {ss : List Section}

/-- The graph on which a maneuver travels. -/
def graphAt (path : Path) (i : Nat) : Graph := (path.maneuvers[i]?.map (·.graph)).getD default

/-- The place is a stop of the path, at the coordinate of the shape where the maneuver starts or
where the path ends. -/
def Describes (path : Path) : Stop → PlaceObject → Prop
  | .address i, place => ∃ m c, path.maneuvers[i]? = some m ∧ path.shape[m.start]? = some c ∧
      place.IsAddress c m
  | .station i, place => ∃ m c, path.maneuvers[i]? = some m ∧ path.shape[m.start]? = some c ∧
      place.IsStation c m
  | .finish, place => ∃ m c, path.maneuvers.getLast? = some m ∧ path.shape.getLast? = some c ∧
      place.IsAddress c m

/-- A stop is one place. -/
lemma Describes.unique (h : path.Describes stop place) (h' : path.Describes stop place') :
    place = place' := by
  cases stop with
  | address i =>
    obtain ⟨m, c, hm, hc, hplace⟩ := h
    obtain ⟨m', c', hm', hc', hplace'⟩ := h'
    cases hm.symm.trans hm'
    cases hc.symm.trans hc'
    exact hplace.unique hplace'
  | station i =>
    obtain ⟨m, c, hm, hc, hplace⟩ := h
    obtain ⟨m', c', hm', hc', hplace'⟩ := h'
    cases hm.symm.trans hm'
    cases hc.symm.trans hc'
    exact hplace.unique hplace'
  | finish =>
    obtain ⟨m, c, hm, hc, hplace⟩ := h
    obtain ⟨m', c', hm', hc', hplace'⟩ := h'
    cases hm.symm.trans hm'
    cases hc.symm.trans hc'
    exact hplace.unique hplace'

/-- What a bike-share trip consists of, and from where to where each part goes: a walk from the
start to the first station unless the path starts there, the stops at both stations with the ride
between them, and a walk on unless the path ends with the second stop. -/
def itinerary (path : Path) (r p : Nat) : List (SectionKind × Stop × Stop) :=
  (if 0 < r then [(.street, .address 0, .address r)] else []) ++
    [(.rent, .address r, .station r), (.street, .station r, .station p),
      (.putBack, .station p, .address p)] ++
    (if p + 1 < path.maneuvers.length then [(.street, .address p, .finish)] else [])

/-- A section shows a part of a trip: it is of its kind, and it goes from where to where the part
goes. -/
structure Shows (path : Path) (part : SectionKind × Stop × Stop) (s : Section) : Prop where
  kind : s.kind = part.1.number
  origin : ∃ place, s.origin = some place ∧ path.Describes part.2.1 place
  destination : ∃ place, s.destination = some place ∧ path.Describes part.2.2 place

/-- A bike is first taken at the maneuver `r` and first returned at `p`; the path goes by bike from
`r` on, and not by bike from `p` on, nor from its start when a bike is taken later. -/
structure Rides (path : Path) (r p : Nat) : Prop where
  taken : Trip.find? path.maneuvers .rent = some r
  returned : Trip.find? path.maneuvers .putBack = some p
  later : r < p
  onBike : path.graphAt r = .bicycle
  offBike : path.graphAt p ≠ .bicycle
  walked : 0 < r → path.graphAt 0 ≠ .bicycle

/-- Each part of an itinerary goes to where the next one comes from. -/
lemma isChain_itinerary :
    (path.itinerary r p).IsChain fun part next => part.2.2 = next.2.1 := by
  unfold itinerary
  split <;> split <;> simp

/-- An itinerary has at most five parts. -/
lemma length_itinerary_le : (path.itinerary r p).length ≤ 5 := by
  unfold itinerary
  split <;> split <;> simp

/-- Sections of parts that meet share their places. -/
lemma isChain_of_shows (h : List.Forall₂ path.Shows parts ss)
    (hmeet : parts.IsChain fun part next => part.2.2 = next.2.1) :
    ss.IsChain fun s next => ∃ place, s.destination = some place ∧ next.origin = some place := by
  induction h with
  | nil => exact .nil
  | @cons part s parts ss hs hss ih =>
    obtain ⟨hnext, hrest⟩ := List.isChain_cons.1 hmeet
    refine List.isChain_cons.2 ⟨fun next hmem => ?_, ih hrest⟩
    cases hss with
    | nil => cases hmem
    | @cons part' s' _ _ hs' _ =>
      cases hmem
      obtain ⟨place, hplace, hdescribes⟩ := hs.destination
      obtain ⟨place', hplace', hdescribes'⟩ := hs'.origin
      have hstop : part.2.2 = part'.2.1 := hnext part' rfl
      rw [hstop] at hdescribes
      obtain rfl := hdescribes.unique hdescribes'
      exact ⟨place, hplace, hplace'⟩

end Path

/-! ### The parts that legs become -/

namespace Leg

variable {path : Path} {costs : BikeShareCosts} {instructions : Bool} {leg : Leg} {s : Section}
  {first last : Nat}

/-- The part of a bike-share trip that a leg is: a leg on a bike runs between stations, and any
other one between addresses. -/
def part (path : Path) : Leg → SectionKind × Stop × Stop
  | street first last _ =>
    if path.graphAt first = .bicycle then (.street, .station first, .station last)
    else (.street, .address first,
      if path.maneuvers.length ≤ last then .finish else .address last)
  | station i .rent => (.rent, .address i, .station i)
  | station i .putBack => (.putBack, .station i, .address i)

/-- A leg of a bike-share trip; none on a bike takes all remaining maneuvers. -/
def Staged (path : Path) : Leg → Prop
  | street first last stations =>
    stations = true ∧ (path.graphAt first = .bicycle → last < path.maneuvers.length)
  | station _ _ => True

/-- Except on a bike, a leg runs between addresses. -/
lemma endpoint_of_ne {g : Graph} (h : g ≠ .bicycle) : endpoint true g = .ofManeuver := by
  cases g with
  | bicycle => exact absurd rfl h
  | pedestrian => rfl
  | drive => rfl

/-- A leg becomes a section that shows its part. -/
lemma shows_of_toSection (hleg : leg.Staged path)
    (h : leg.toSection path costs instructions = .ok s) : path.Shows (leg.part path) s := by
  cases leg with
  | street first last stations =>
    obtain ⟨rfl, hride⟩ := hleg
    obtain ⟨start, bound, target, arrival, source, hstart, hfinish, -, -, hsource, rfl⟩ :=
      streetSection_eq_ok h
    have hgraph : path.graphAt first = start.graph := by rw [Path.graphAt, hstart]; rfl
    by_cases hbike : start.graph = .bicycle
    · obtain ⟨-, htarget, harrival⟩ := Path.finish_of_lt (hride (hgraph.trans hbike)) hfinish
      rw [part, hgraph, if_pos hbike, hbike]
      exact ⟨rfl, ⟨_, rfl, start, source, hstart, hsource, Endpoint.isStation_place _ _⟩,
        ⟨_, rfl, arrival, target, harrival, htarget, Endpoint.isStation_place _ _⟩⟩
    · rw [part, hgraph, if_neg hbike, endpoint_of_ne hbike]
      refine ⟨rfl, ⟨_, rfl, start, source, hstart, hsource, Endpoint.isAddress_place _ _⟩, _, rfl,
        ?_⟩
      dsimp only
      split
      · next hle =>
        obtain ⟨-, htarget, harrival⟩ := Path.finish_of_le hle hfinish
        rw [← List.getLast?_eq_getElem?] at htarget harrival
        exact ⟨arrival, target, harrival, htarget, Endpoint.isAddress_place _ _⟩
      · next hlt =>
        obtain ⟨-, htarget, harrival⟩ := Path.finish_of_lt (Nat.not_le.1 hlt) hfinish
        exact ⟨arrival, target, harrival, htarget, Endpoint.isAddress_place _ _⟩
  | station index visit =>
    obtain ⟨m, hm, h⟩ := exists_of_bind_eq_ok h
    obtain ⟨c, hc, h⟩ := exists_of_bind_eq_ok h
    rw [Path.maneuver_eq_ok] at hm
    rw [Path.point_eq_ok] at hc
    have haddress : path.Describes (.address index) (Endpoint.ofManeuver c m).place :=
      ⟨m, c, hm, hc, Endpoint.isAddress_place c m⟩
    have hstation : path.Describes (.station index) (Endpoint.stationOf c m).place :=
      ⟨m, c, hm, hc, Endpoint.isStation_place c m⟩
    cases h
    cases visit with
    | rent => exact ⟨rfl, ⟨_, rfl, haddress⟩, ⟨_, rfl, hstation⟩⟩
    | putBack => exact ⟨rfl, ⟨_, rfl, hstation⟩, ⟨_, rfl, haddress⟩⟩

end Leg

namespace Path.Rides

variable {path : Path} {r p : Nat}

/-- A path on which a bike is ridden is split where it is taken and put back. -/
lemma ofPath (h : path.Rides r p) : Trip.ofPath .bss path = .ok (.bikeShare r p) := by
  rw [Trip.ofPath, Trip.classify, h.taken, h.returned]
  exact if_pos h.later

/-- A bike is returned at a maneuver of the path. -/
lemma lt_length (h : path.Rides r p) : p < path.maneuvers.length := by
  obtain ⟨⟨m, hm, -⟩, -⟩ := Trip.of_find? h.returned
  exact (List.getElem?_eq_some_iff.1 hm).1

/-- The ride is the only leg on a bike, and it ends where the bike is returned. -/
lemma staged_legs (h : path.Rides r p) :
    ∀ leg ∈ (Trip.bikeShare r p).legs path.maneuvers.length, leg.Staged path := by
  intro leg hleg
  obtain ⟨hr, rfl⟩ | rfl | rfl | rfl | ⟨-, rfl⟩ := Trip.mem_legs_bikeShare.1 hleg
  · exact ⟨rfl, fun hbike => absurd hbike (h.walked hr)⟩
  · trivial
  · exact ⟨rfl, fun _ => h.lt_length⟩
  · trivial
  · exact ⟨rfl, fun hbike => absurd hbike h.offBike⟩

/-- The legs of a bike-share trip are the parts of its itinerary. -/
lemma part_legs (h : path.Rides r p) :
    ((Trip.bikeShare r p).legs path.maneuvers.length).map (Leg.part path) =
      path.itinerary r p := by
  have hr := h.later.trans h.lt_length
  have hwalk (hr₀ : 0 < r) : (Leg.street 0 r true).part path =
      (.street, .address 0, .address r) := by
    rw [Leg.part, if_neg (h.walked hr₀), if_neg (Nat.not_le.2 hr)]
  have hride : (Leg.street r p true).part path = (.street, .station r, .station p) := by
    rw [Leg.part, if_pos h.onBike]
  have hrest : (Leg.street p path.maneuvers.length true).part path =
      (.street, .address p, .finish) := by
    rw [Leg.part, if_neg h.offBike, if_pos le_rfl]
  simp only [Trip.legs, itinerary, List.map_append, apply_ite (List.map (Leg.part path)),
    List.map_cons, List.map_nil, hride, hrest]
  split
  · next hr₀ =>
    rw [hwalk hr₀]
    rfl
  · rfl

end Path.Rides

/-! ### Linked sections -/

/-- Sections on the time line are numbered from the index of the first one on. -/
lemma Section.ids_chainFrom {ss : List Section} {index : Nat} {clock : UInt64} :
    (chainFrom index clock ss).map (·.id) = (List.range' index ss.length).map idOf := by
  induction ss generalizing index clock with
  | nil => rfl
  | cons s ss ih =>
    rw [chainFrom, List.map_cons, ih, List.length_cons, List.range'_succ, List.map_cons]
    rfl

/-- The sections of a bike-share journey show the parts of its itinerary; they are numbered in their
order and counted, and each ends at the place, described in full, where the next one starts. -/
structure Journey.Linked (path : Path) (r p : Nat) (j : Journey) : Prop where
  shows : List.Forall₂ path.Shows (path.itinerary r p) j.sections
  named : j.sections.map (·.id) =
    (List.range j.sections.length).map fun i => "section_" ++ toString i
  counted : j.sectionCount.toNat = j.sections.length
  linked : j.sections.IsChain fun s next =>
    ∃ place, s.destination = some place ∧ next.origin = some place

namespace JourneyQuery

variable {q : JourneyQuery} {path : Path} {costing : Costing} {elevation : Option ElevationSource}
  {ss : List Section} {j : Journey} {r p : Nat}

/-- The sections of a journey are numbered. -/
lemma ids_journey :
    (q.journey path ss).sections.map (·.id) = (List.range ss.length).map Section.idOf := by
  have hchain : (Section.chain q.datetime ss).map (·.id) =
      (List.range ss.length).map Section.idOf := by
    rw [List.range_eq_range']
    exact Section.ids_chainFrom
  rw [sections_journey]
  split
  · exact hchain
  · exact (Section.map_chainBack fun _ _ => rfl).trans hchain

/-- A journey tells how many sections there are. -/
lemma sectionCount_journey : (q.journey path ss).sectionCount = UInt32.ofNat ss.length := by
  unfold journey
  split <;> rfl

/-- A journey has as many sections as were planned. -/
lemma length_journey : (q.journey path ss).sections.length = ss.length := by
  have hmap : (q.journey path ss).sections.map Section.kind = ss.map Section.kind :=
    map_journey (fun _ _ _ => rfl) (fun _ _ => rfl)
  simpa using congrArg List.length hmap

/-- A bike-share journey that is assembled has the sections of its itinerary, numbered in their
order, and each section starts at the very place where the one before it ends. -/
theorem linked_of_assemble (hmode : costing.mode = .bss) (hr : path.Rides r p)
    (h : (q.assemble path costing elevation).Leads P (.done j)) : j.Linked path r p := by
  obtain ⟨trip, htrip, hsections⟩ := planned_of_assemble h
  rw [hmode] at htrip
  cases hr.ofPath.symm.trans htrip
  have hshows : List.Forall₂ path.Shows (path.itinerary r p) j.sections := by
    rw [← hr.part_legs, List.forall₂_map_left_iff]
    refine ((List.forall₂_and_left _ _).2 ⟨hr.staged_legs, hsections⟩).imp fun leg s hleg => ?_
    obtain ⟨hstaged, hs⟩ := hleg
    obtain ⟨hkind, horigin, hdestination⟩ := Leg.shows_of_toSection hstaged hs
    exact ⟨hkind, horigin, hdestination⟩
  have hcount : j.sections.length ≤ 5 := hshows.length_eq ▸ Path.length_itinerary_le
  obtain ⟨_, ss, t, -, -, -, rfl⟩ := of_assemble h
  rw [Journey.sections_withTotals, length_journey] at hcount
  refine ⟨hshows, ?_, ?_, Path.isChain_of_shows hshows Path.isChain_itinerary⟩
  · rw [Journey.sections_withTotals, length_journey]
    exact ids_journey
  · rw [Journey.sections_withTotals, length_journey]
    exact (congrArg UInt32.toNat sectionCount_journey).trans
      (UInt32.toNat_ofNat_of_lt' (Nat.lt_of_le_of_lt hcount (by decide)))

/-- The hired bike: a walk, two stops with a ride between them, and a walk on. The stops lead from
an address to a station and back. -/
theorem linked_hire :
    ∃ j, (assemble ⟨1000, false, true⟩ hire hireCosting none).Leads (fun _ => True) (.done j) ∧
      j.sections.map (·.id) = ["section_0", "section_1", "section_2", "section_3", "section_4"] ∧
      j.sections.map (fun s => (s.origin.map (·.kind), s.destination.map (·.kind))) =
        [(some 1, some 1), (some 1, some 2), (some 2, some 2), (some 2, some 1),
          (some 1, some 1)] ∧
      j.sections.map (fun s => s.origin.map (·.uri)) =
        [some "0.00000;1.00000", some "0.00000;2.00000", some "poi:osm:node:0",
          some "poi:osm:node:0", some "0.00000;4.00000"] ∧
      hire.Rides 1 2 ∧ j.Linked hire 1 2 := by
  have hrun : ((assemble ⟨1000, false, true⟩ hire hireCosting none).run
      { caches := .ofCapacities fun _ => 1 }).1.map (fun j => (j.sections.map (·.id),
        j.sections.map (fun s => (s.origin.map (·.kind), s.destination.map (·.kind))),
        j.sections.map fun s => s.origin.map (·.uri))) =
      .ok (["section_0", "section_1", "section_2", "section_3", "section_4"],
        [(some 1, some 1), (some 1, some 2), (some 2, some 2), (some 2, some 1),
          (some 1, some 1)],
        [some "0.00000;1.00000", some "0.00000;2.00000", some "poi:osm:node:0",
          some "poi:osm:node:0", some "0.00000;4.00000"]) := by
    decide +kernel
  obtain ⟨j, hleads, hvalues⟩ := Procedure.exists_leads_of_run hrun
  simp only [Prod.mk.injEq] at hvalues
  obtain ⟨hids, hkinds, huris⟩ := hvalues
  have hrides : hire.Rides 1 2 :=
    ⟨by decide, by decide, by decide, by decide, by decide, fun _ => by decide⟩
  exact ⟨j, hleads, hids, hkinds, huris, hrides, linked_of_assemble rfl hrides hleads⟩

end JourneyQuery

end Wayfinding
