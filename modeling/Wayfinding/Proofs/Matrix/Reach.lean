import Wayfinding.Proofs.Answer.Outcomes
import Wayfinding.Proofs.Matrix.Cells
import Wayfinding.Proofs.Number.Bounds
import Wayfinding.Proofs.Road.Divisors

/-!
# What a matrix reaches

The straight-line engine leaves out of a matrix what lies beyond the search radius, and a matrix
counts as reached what takes no longer than the requested duration. Times are rounded, radii are
not. So a pair whose time is rounded down to the requested duration may lie beyond the radius; any
other pair is reached if and only if the path between its places takes no longer.

Main definitions: `MatrixRequest.fullRadius`, `MatrixCell.Follows`.
Main lemmas: `StraightLine.le_travelTime`, `MatrixRequest.le_fullRadius`.
Main statement: `MatrixRequest.follows_path`.
-/

namespace Wayfinding

open Binary64 (AtLeast oneUnits)

/-! ### Times and radii -/

/-- A path that takes longer than some seconds is not announced with fewer. -/
lemma StraightLine.le_travelTime {n : Nat} {distance speed : Binary64} (hn : n < UInt32.size)
    (hdistance : 0 ≤ distance) (hspeed : 0 < speed) (h : n * speed.units < distance.units) :
    n ≤ travelTime distance speed := by
  obtain rfl | hpos := Nat.eq_zero_or_pos n
  · exact Nat.zero_le _
  have hn' : n ≤ 2 ^ 53 := Nat.le_trans (Nat.le_of_lt hn) (by decide)
  have hdistance : 0 < distance := by
    obtain hdistance | ⟨-, hzero⟩ := Binary64.pos_or_zero hdistance
    · exact hdistance
    · rw [hzero] at h
      exact absurd h (Nat.not_lt_zero _)
  -- at an infinite speed nothing takes longer than a second
  have hfinite : speed.isFinite = true :=
    Binary64.isFinite_of_units_lt hdistance.2.1
      (Nat.lt_of_le_of_lt (Nat.le_mul_of_pos_left _ hpos) h)
  have hquotient : AtLeast n (distance / speed) :=
    Binary64.atLeast_div hn' hdistance hspeed hfinite (Nat.le_of_lt h)
  exact (hquotient.toRound hn').le_toWord32 hn

namespace MatrixRequest

/-- The search radius before it is cut to the ceiling of the mode. -/
def fullRadius (mode : Mode) (maxDuration : Int32) (coefficient : Binary64) (costing : Costing)
    (routing : RoutingSettings) : Binary64 :=
  (Binary64.ofInt maxDuration.toInt * fasterSpeed mode costing routing * coefficient).max 0

/-- The speed of a path is at most the one that the radius is computed with. -/
lemma speed_le_fasterSpeed {s : StraightLine} {costing : Costing} (h : s.routing.Sound) :
    s.speed costing ≤ fasterSpeed costing.mode costing s.routing := by
  have haverage : (s.routing.averageSpeed.get costing.mode).isNaN = false :=
    (h.averageSpeed costing.mode).2.1
  simp only [StraightLine.speed, fasterSpeed]
  split
  case isTrue hpos => exact Binary64.le_max_left hpos.2.1 haverage
  case isFalse => exact Binary64.le_max_right haverage

/-- A place that is reached in time at some speed is not beyond the radius at a higher one. -/
lemma le_fullRadius {mode : Mode} {maxDuration : Int32} {n : Nat}
    {coefficient distance speed : Binary64} {costing : Costing} {routing : RoutingSettings}
    (hmax : maxDuration.toInt = n) (hcoefficient : .ofNat 1 ≤ coefficient) (hspeed : 0 < speed)
    (hle : speed ≤ fasterSpeed mode costing routing) (hdistance : 0 ≤ distance)
    (h : distance.units ≤ n * speed.units) :
    distance ≤ fullRadius mode maxDuration coefficient costing routing := by
  obtain hpos | ⟨hzero, -⟩ := Binary64.pos_or_zero hdistance
  · have hn : 0 < n := by
      refine Nat.pos_of_ne_zero ?_
      rintro rfl
      rw [Nat.zero_mul] at h
      exact absurd (Binary64.units_pos hpos) (Nat.not_lt.2 h)
    have hseconds : AtLeast n (Binary64.ofInt maxDuration.toInt) := by
      have hlt := maxDuration.toInt_lt
      rw [hmax] at hlt ⊢
      exact Binary64.atLeast_ofRatio (by omega) Nat.one_pos (by simp)
    have hone : AtLeast 1 (.ofNat 1) := Binary64.atLeast_ofNat (by decide)
    have hone' : oneUnits ≤ coefficient.units := by
      refine Nat.le_trans ?_ (Binary64.units_le_of_le (hone.pos Nat.one_pos) hcoefficient)
      simpa using hone.le_units
    refine Binary64.le_max_mul hdistance ?_ hone'
      (Binary64.lt_of_lt_of_le (hone.pos Nat.one_pos) hcoefficient)
    refine Binary64.le_mul hdistance.2.1 (hseconds.pos hn)
      (Binary64.lt_of_lt_of_le hspeed hle) ?_
    calc distance.units * oneUnits
      _ ≤ n * speed.units * oneUnits := Nat.mul_le_mul_right _ h
      _ = n * oneUnits * speed.units := Nat.mul_right_comm _ _ _
      _ ≤ (Binary64.ofInt maxDuration.toInt).units * (fasterSpeed mode costing routing).units :=
        Nat.mul_le_mul hseconds.le_units (Binary64.units_le_of_le hspeed hle)
  · exact Binary64.le_trans hzero (Binary64.le_max_right Binary64.isNaN_zero)

end MatrixRequest

namespace StraightLine

variable {costing : Costing} {radius : Binary64} {l l' : Location}

/-- What is farther than the radius is left out. -/
lemma cell_of_lt (s : StraightLine) (h : radius < s.globe.distance l.snapped l'.snapped) :
    s.cell costing radius l l' = .unreachable := if_pos h

/-- Anything else has the time of the path. -/
lemma cell_of_not_lt (s : StraightLine) (h : ¬radius < s.globe.distance l.snapped l'.snapped) :
    s.cell costing radius l l' = ⟨(s.path l l' costing).elapsed,
      (s.globe.distance l.snapped l'.snapped).round.toWord32.toNat⟩ := if_neg h

/-- What is told about a pair is a time that can be reached, and soon enough, if and only if the
pair is visible and its path takes such a time. -/
lemma time_cell_iff (s : StraightLine) {n : Nat} :
    ((s.cell costing radius l l').time < unreachableTime ∧
      (s.cell costing radius l l').time ≤ n) ↔
      ¬radius < s.globe.distance l.snapped l'.snapped ∧
        (s.path l l' costing).elapsed < unreachableTime ∧ (s.path l l' costing).elapsed ≤ n := by
  by_cases hfar : radius < s.globe.distance l.snapped l'.snapped
  · rw [s.cell_of_lt hfar]
    exact iff_of_false (fun h => absurd h.1 (Nat.lt_irrefl _)) fun h => h.1 hfar
  · rw [s.cell_of_not_lt hfar]
    exact (and_iff_right hfar).symm

end StraightLine

/-! ### The matrix of one pair -/

/-- The cell of a pair that is reached in so many seconds. -/
def MatrixCell.reachedIn (seconds : Nat) : MatrixCell :=
  ⟨Int32.ofNat seconds, Reachability.reached.number⟩

/-- The cell agrees with a path that takes so many seconds: the pair is reached in that time, or,
if it takes longer than the requested duration, it is not reached. -/
def MatrixCell.Follows (cell : MatrixCell) (elapsed maxDuration : Nat) : Prop :=
  if elapsed ≤ maxDuration then cell = .reachedIn elapsed
  else cell.status = Reachability.unreached.number

instance {cell : MatrixCell} {elapsed maxDuration : Nat} :
    Decidable (cell.Follows elapsed maxDuration) :=
  inferInstanceAs (Decidable (if elapsed ≤ maxDuration then cell = .reachedIn elapsed
    else cell.status = Reachability.unreached.number))

/-- A matrix with one cell. -/
def Matrix.single (cell : MatrixCell) : Matrix := ⟨[⟨[cell]⟩]⟩

namespace MatrixCell

variable {result : TimeDistance} {maxDuration : Nat}

/-- What takes no longer than requested is reached, if it can be reached at all. -/
lemma ofResult_of_le (hmax : result.time ≤ maxDuration) (htime : result.time < unreachableTime) :
    ofResult maxDuration result = .reachedIn result.time := by
  have hreaches : reaches maxDuration result = true := decide_eq_true ⟨htime, hmax⟩
  have hmin : min result.time longestDuration = result.time := Nat.min_eq_left (Nat.le_of_lt htime)
  rw [ofResult, hreaches, if_pos rfl, hmin]
  rfl

/-- Anything else is not reached. -/
lemma status_of_not_reaches (h : ¬(result.time < unreachableTime ∧ result.time ≤ maxDuration)) :
    (ofResult maxDuration result).status = Reachability.unreached.number := by
  have hreaches : reaches maxDuration result = false := decide_eq_false h
  rw [ofResult, hreaches]
  rfl

end MatrixCell

namespace MatrixQuery

variable {e : Engine} {q : MatrixQuery} {a b : Coordinate} {l l' : Location}

/-- Looking for one place is one call. -/
lemma project_single (h : e.project a q.costing = .ok (some l)) (whenEmpty : Refusal) :
    q.project e [a] whenEmpty = .call (.project a q.costing.mode) (.done [(a, l)]) := by
  simp only [project, Projections.ofCoordinates, Projections.extend, Projections.locate,
    Projections.consult, h]
  rfl

/-- One place has one location. -/
lemma filterMap_single (a : Coordinate) (l : Location) :
    [a].filterMap (Projections.find? [(a, l)]) = [l] := by
  simp [Projections.find?]

/-- The place is among the located ones. -/
lemma map_has_single (a : Coordinate) (l : Location) :
    [a].map (Projections.has [(a, l)]) = [true] := by
  simp [Projections.has]

/-- The matrix of one pair has the one result of the engine. -/
lemma matrix_single {result : TimeDistance} (hs : q.sources = [a]) (ht : q.targets = [b])
    (ha : e.project a q.costing = .ok (some l)) (hb : e.project b q.costing = .ok (some l'))
    (hr : e.searchMatrix [l] [l'] q.costing q.radius = .ok [result]) :
    (q.matrix e).EndsIn (· = .ok (.single (.ofResult q.maxDuration result))) := by
  unfold matrix search
  rw [hs, ht, project_single ha, project_single hb]
  refine .call (.call ?_)
  simp only [Procedure.bind, filterMap_single, map_has_single, hr]
  exact .call (.done rfl)

end MatrixQuery

namespace MatrixRequest

variable {e : Engine} {r : MatrixRequest} {q : MatrixQuery} {routing : RoutingSettings}

/-- The radius of a query is that of its request. -/
lemma radius_of_query (h : r.query routing = .ok q) :
    q.costing.mode = q.mode ∧
      radius q.mode r.maxDuration (r.coefficient q.mode routing) q.costing routing
        = .ok q.radius := by
  obtain ⟨mode, -, h⟩ := exists_of_bind_eq_ok h
  obtain ⟨sources, -, h⟩ := exists_of_bind_eq_ok h
  obtain ⟨targets, -, h⟩ := exists_of_bind_eq_ok h
  obtain ⟨distance, hradius, h⟩ := exists_of_bind_eq_ok h
  cases h
  exact ⟨rfl, hradius⟩

/-- No duration is above the time of what cannot be reached. -/
lemma le_unreachableTime (h : r.query routing = .ok q) : q.maxDuration ≤ unreachableTime := by
  obtain ⟨-, -, hmax⟩ := of_query h
  have hlt := r.maxDuration.toInt_lt
  have htime : unreachableTime = 2147483647 := rfl
  omega

/-- A radius that is not above the ceiling is not cut. -/
lemma eq_fullRadius {mode : Mode} {maxDuration : Int32} {coefficient found : Binary64}
    {costing : Costing} (h : radius mode maxDuration coefficient costing routing = .ok found)
    (hceiling : ¬routing.maxMatrixDistance.get mode
      < fullRadius mode maxDuration coefficient costing routing) :
    found = fullRadius mode maxDuration coefficient costing routing := by
  simp only [radius] at h
  split at h
  · cases h
  · cases h
    exact if_neg hceiling

/-- A request is answered with the matrix of its query. -/
lemma answer_endsIn {m : Matrix} (hq : r.query routing = .ok q)
    (hm : (q.matrix e).EndsIn (· = .ok m)) :
    (r.answer e routing).EndsIn (· = .ok (q.mode, { matrix := some m })) := by
  unfold answer
  rw [hq]
  refine Procedure.EndsIn.bind (p := .done q) (Q := (· = .ok q)) (.done rfl) ?_ nofun
  rintro _ ⟨⟩
  refine hm.bind ?_ nofun
  rintro _ ⟨⟩
  exact .inspect fun stats => .measure (.measure (.measure (.done rfl)))

variable {settings : Settings} {s : StraightLine} {a b : Coordinate} {l l' : Location}

/-- What is asked about a pair: accepted settings, two places that are located, a distance that is
not negative, a coefficient of at least one, and a radius that is not cut. -/
structure Pairs (settings : Settings) (s : StraightLine) (r : MatrixRequest) (q : MatrixQuery)
    (l l' : Location) : Prop where
  valid : settings.Valid
  routing : s.routing = settings.routing
  query : r.query settings.routing = .ok q
  source : ∃ a, q.sources = [a] ∧ s.engine.project a q.costing = .ok (some l)
  target : ∃ b, q.targets = [b] ∧ s.engine.project b q.costing = .ok (some l')
  distance_nonneg : 0 ≤ s.globe.distance l.snapped l'.snapped
  coefficient : .ofNat 1 ≤ r.coefficient q.mode settings.routing
  uncut : ¬settings.routing.maxMatrixDistance.get q.mode
    < fullRadius q.mode r.maxDuration (r.coefficient q.mode settings.routing) q.costing
        settings.routing

/-- The path takes no longer than requested, before its time is rounded. In no time, nothing is
reached that is any distance away, not even at an infinite speed. -/
def InTime (s : StraightLine) (q : MatrixQuery) (l l' : Location) : Prop :=
  (s.globe.distance l.snapped l'.snapped).units ≤ q.maxDuration * (s.speed q.costing).units

instance : Decidable (InTime s q l l') := Nat.decLe _ _

namespace Pairs

/-- A pair that is in time is within the radius. -/
lemma not_lt_distance (h : Pairs settings s r q l l') (htime : InTime s q l l') :
    ¬q.radius < s.globe.distance l.snapped l'.snapped := by
  obtain ⟨-, -, hmax⟩ := of_query h.query
  obtain ⟨hmode, hradius⟩ := radius_of_query h.query
  have hsound : s.routing.Sound := h.routing ▸ h.valid.routing
  rw [eq_fullRadius hradius h.uncut, ← h.routing]
  refine Binary64.not_lt_of_le (le_fullRadius hmax (h.routing ▸ h.coefficient)
    (s.speed_pos hsound q.costing) ?_ h.distance_nonneg htime)
  rw [← hmode]
  exact speed_le_fasterSpeed hsound

/-- A time that is less than requested was so before it was rounded. -/
lemma inTime_of_lt (h : Pairs settings s r q l l')
    (hlt : (s.path l l' q.costing).elapsed < q.maxDuration) : InTime s q l l' := by
  have hsound : s.routing.Sound := h.routing ▸ h.valid.routing
  have hsize : q.maxDuration < UInt32.size :=
    Nat.lt_of_le_of_lt (le_unreachableTime h.query) (by decide)
  by_contra hnot
  have hle := StraightLine.le_travelTime hsize h.distance_nonneg (s.speed_pos hsound q.costing)
    (Nat.not_le.1 hnot)
  exact absurd hlt (Nat.not_lt.2 hle)

/-- The answer about a pair has one cell. -/
lemma answer_endsIn (h : Pairs settings s r q l l') :
    (r.answer s.engine settings.routing).EndsIn fun o =>
      o = .ok (q.mode,
        { matrix := some (.single (.ofResult q.maxDuration (s.cell q.costing q.radius l l'))) })
    := by
  obtain ⟨a, hs, ha⟩ := h.source
  obtain ⟨b, ht, hb⟩ := h.target
  exact MatrixRequest.answer_endsIn h.query (MatrixQuery.matrix_single hs ht ha hb rfl)

/-- What is visible and can be told from what cannot be reached is reached in the time that the path
takes, or not at all if that is longer than requested. -/
lemma follows_of_exact (h : Pairs settings s r q l l')
    (hexact : (s.path l l' q.costing).elapsed = q.maxDuration →
      q.maxDuration < unreachableTime ∧ ¬q.radius < s.globe.distance l.snapped l'.snapped) :
    (MatrixCell.ofResult q.maxDuration (s.cell q.costing q.radius l l')).Follows
      (s.path l l' q.costing).elapsed q.maxDuration := by
  unfold MatrixCell.Follows
  split
  case isTrue hle =>
    have hin : (s.path l l' q.costing).elapsed < unreachableTime ∧
        ¬q.radius < s.globe.distance l.snapped l'.snapped := by
      obtain hlt | heq := Nat.lt_or_eq_of_le hle
      · exact ⟨Nat.lt_of_lt_of_le hlt (le_unreachableTime h.query),
          h.not_lt_distance (h.inTime_of_lt hlt)⟩
      · obtain ⟨hbelow, hvisible⟩ := hexact heq
        exact ⟨heq ▸ hbelow, hvisible⟩
    obtain ⟨htime, hvisible⟩ := hin
    rw [s.cell_of_not_lt hvisible]
    exact MatrixCell.ofResult_of_le hle htime
  case isFalse hgt =>
    refine MatrixCell.status_of_not_reaches fun hreaches => ?_
    obtain ⟨-, -, hle⟩ := s.time_cell_iff.1 hreaches
    exact hgt hle

/-- What is reached in just the requested duration is visible, and that duration does not stand for
what cannot be reached. -/
lemma exact_of_follows
    (hfollows : (MatrixCell.ofResult q.maxDuration (s.cell q.costing q.radius l l')).Follows
      (s.path l l' q.costing).elapsed q.maxDuration)
    (heq : (s.path l l' q.costing).elapsed = q.maxDuration) :
    q.maxDuration < unreachableTime ∧ ¬q.radius < s.globe.distance l.snapped l'.snapped := by
  rw [MatrixCell.Follows, if_pos (Nat.le_of_eq heq)] at hfollows
  have hreached : (MatrixCell.ofResult q.maxDuration (s.cell q.costing q.radius l l')).status =
      Reachability.reached.number := congrArg MatrixCell.status hfollows
  by_contra hnot
  have hunreached : (MatrixCell.ofResult q.maxDuration (s.cell q.costing q.radius l l')).status =
      Reachability.unreached.number := by
    refine MatrixCell.status_of_not_reaches fun hreaches => ?_
    obtain ⟨hvisible, htime, -⟩ := s.time_cell_iff.1 hreaches
    exact hnot ⟨heq ▸ htime, hvisible⟩
  exact absurd (hunreached.symm.trans hreached) (by decide)

end Pairs

/-- The matrix of one pair, and the path between its places. What can be reached in the requested
duration is not beyond the radius; and the pair is reached in the time that the path takes, or not
at all if that is longer than requested. The only exception is a path that is announced with just
the requested duration, when this stands for what cannot be reached, or when the pair is farther
apart than the radius. -/
theorem follows_path (h : Pairs settings s r q l l') :
    ∃ path cell, s.engine.search l l' q.costing = .ok (some path) ∧
      (r.answer s.engine settings.routing).EndsIn
        (· = .ok (q.mode, { matrix := some (.single cell) })) ∧
      (path.elapsed < q.maxDuration ∨ InTime s q l l' →
        ¬q.radius < s.globe.distance l.snapped l'.snapped) ∧
      (cell.Follows path.elapsed q.maxDuration ↔
        (path.elapsed = q.maxDuration → q.maxDuration < unreachableTime ∧
          ¬q.radius < s.globe.distance l.snapped l'.snapped)) := by
  refine ⟨s.path l l' q.costing, _, rfl, h.answer_endsIn, ?_, Pairs.exact_of_follows,
    h.follows_of_exact⟩
  rintro (hlt | htime)
  · exact h.not_lt_distance (h.inTime_of_lt hlt)
  · exact h.not_lt_distance htime

/-! ### Walks in the open -/

/-- Settings without ceilings for search radii. -/
def openCountry : Settings where
  routing := { RoutingSettings.default with maxMatrixDistance := .uniform (.infinity false) }

/-- Different places in the open country are so many meters apart. -/
def country (meters : Binary64) : StraightLine where
  globe := ⟨fun c c' => if c = c' then 0 else meters, fun _ _ => 0⟩
  coverage := none
  routing := openCountry.routing

/-- A place. -/
def west : Coordinate := ⟨.ofNat 2, .ofNat 48⟩

/-- A place on the same latitude. -/
def east : Coordinate := ⟨.ofNat 3, .ofNat 48⟩

/-- A request for a walk from the one to the other. -/
def walk (maxDuration : Int32) : MatrixRequest where
  origins := [{ place := "2;48" }]
  destinations := [{ place := "3;48" }]
  mode := "walking"
  maxDuration := maxDuration

/-- The costing of the walk. -/
def walkCosting : Costing := .ofPreferences .walking {} openCountry.routing

deriving instance DecidableEq for MatrixQuery

/-- What the request for the walk asks. -/
def walkQuery (maxDuration : Int32) : MatrixQuery where
  mode := .walking
  sources := [west]
  targets := [east]
  costing := walkCosting
  radius := fullRadius .walking maxDuration (.ofNat 1) walkCosting openCountry.routing
  maxDuration := maxDuration.toInt.natAbs

/-- The path of the walk. -/
def walkPath (meters : Binary64) : Path :=
  (country meters).path ⟨west, west⟩ ⟨east, east⟩ walkCosting

/-- The two places are as far apart as they are said to be. -/
lemma distance_country (meters : Binary64) :
    (country meters).globe.distance west east = meters := by
  have hne : west ≠ east := by decide +kernel
  simp only [country, if_neg hne]

/-- A walk in the open country is a pair about which something can be asked. -/
lemma pairs_walk {meters : Binary64} {maxDuration : Int32} (hmeters : 0 ≤ meters)
    (hquery : (walk maxDuration).query openCountry.routing = .ok (walkQuery maxDuration)) :
    Pairs openCountry (country meters) (walk maxDuration) (walkQuery maxDuration)
      ⟨west, west⟩ ⟨east, east⟩ where
  valid := by decide +kernel
  routing := rfl
  query := hquery
  source := ⟨west, rfl, rfl⟩
  target := ⟨east, rfl, rfl⟩
  distance_nonneg := by
    rw [distance_country]
    exact hmeters
  coefficient := by
    change Binary64.ofNat 1 ≤ Binary64.ofNat 1
    decide +kernel
  uncut hlt := Binary64.not_lt_of_le (Binary64.le_infinity hlt.2.1) hlt

/-- A walk of just the requested duration. -/
theorem follows_path_walk :
    Pairs openCountry (country (.ofNat 100)) (walk 100) (walkQuery 100)
        ⟨west, west⟩ ⟨east, east⟩ ∧
      ((walk 100).answer (country (.ofNat 100)).engine openCountry.routing).EndsIn
        (· = .ok (.walking, { matrix := some (.single (.reachedIn 100)) })) := by
  have h : Pairs openCountry (country (.ofNat 100)) (walk 100) (walkQuery 100)
      ⟨west, west⟩ ⟨east, east⟩ :=
    pairs_walk (by decide +kernel) (by decide +kernel)
  obtain ⟨path, cell, hsearch, hanswer, -, hfollows⟩ := follows_path h
  obtain rfl : walkPath (.ofNat 100) = path := Option.some.inj (Except.ok.inj hsearch)
  have helapsed : (walkPath (.ofNat 100)).elapsed = 100 := by decide +kernel
  rw [helapsed] at hfollows
  obtain rfl : cell = .reachedIn 100 := hfollows.2 fun _ => by decide +kernel
  exact ⟨h, hanswer⟩

/-- The path of a walk takes no longer than requested, and yet the walk is not reached. -/
structure Missed (meters : Binary64) (maxDuration : Int32) (elapsed : Nat) (cell : MatrixCell) :
    Prop where
  pairs : Pairs openCountry (country meters) (walk maxDuration) (walkQuery maxDuration)
    ⟨west, west⟩ ⟨east, east⟩
  search : ∃ path, path.elapsed = elapsed ∧ (country meters).engine.search ⟨west, west⟩ ⟨east, east⟩
    (walkQuery maxDuration).costing = .ok (some path)
  answer : ((walk maxDuration).answer (country meters).engine openCountry.routing).EndsIn
    (· = .ok (.walking, { matrix := some (.single cell) }))
  not_follows : ¬cell.Follows elapsed maxDuration.toInt.natAbs

/-- A walk is missed if its cell does not follow its path. -/
lemma missed_walk {meters : Binary64} {maxDuration : Int32} {elapsed : Nat} {cell : MatrixCell}
    (h : Pairs openCountry (country meters) (walk maxDuration) (walkQuery maxDuration)
      ⟨west, west⟩ ⟨east, east⟩)
    (helapsed : (walkPath meters).elapsed = elapsed)
    (hcell : MatrixCell.ofResult (walkQuery maxDuration).maxDuration
      ((country meters).cell (walkQuery maxDuration).costing (walkQuery maxDuration).radius
        ⟨west, west⟩ ⟨east, east⟩) = cell)
    (hnot : ¬cell.Follows elapsed maxDuration.toInt.natAbs) :
    Missed meters maxDuration elapsed cell where
  pairs := h
  search := ⟨_, helapsed, rfl⟩
  answer := hcell ▸ h.answer_endsIn
  not_follows := hnot

/-- A walk that is rounded down to the requested duration lies beyond the radius, and one that
takes as long as what cannot be reached counts as such. -/
theorem not_follows_path :
    Missed (.ofRatio false 401 4) 100 100 ⟨2147483647, 2⟩ ∧
      Missed (.ofNat 2147483647) 2147483647 2147483647 ⟨2147483647, 2⟩ := by
  constructor
  · refine missed_walk (pairs_walk ?_ ?_) ?_ ?_ ?_
    all_goals decide +kernel
  · refine missed_walk (pairs_walk ?_ ?_) ?_ ?_ ?_
    all_goals decide +kernel

end MatrixRequest

end Wayfinding
