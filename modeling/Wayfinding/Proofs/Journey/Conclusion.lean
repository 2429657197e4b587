import Wayfinding.Proofs.Answer.Outcomes
import Wayfinding.Proofs.Journey.Geometry
import Wayfinding.Proofs.Projection.Located

/-!
# How a request for a journey ends

A leg of a path finds all maneuvers that it asks for: the one where it starts, those that it goes
along, and the one that describes its end. So a request for a journey ends as the engine and the
path tell, whatever the path is, and never with a crash but one of the engine, or the one of totals
that overflow. A path that is refused leaves nothing behind in the response.

Main definitions: `PathQuery.Yields`, `PathQuery.Concludes`, `DirectPathRequest.Concludes`.
Main lemmas: `PathQuery.yields_assemble`, `PathQuery.endsIn_endpoints`,
`DirectPathRequest.endsIn_answer`, `Handler.concludes_directPath`.
-/

namespace Wayfinding

namespace Trip

variable {mode : Mode} {path : Path}

/-- A path is refused at its marks only as inconsistent. -/
lemma inconsistent_of_ofPath {refusal : Refusal} (h : ofPath mode path = .error refusal) :
    ∃ found missing, refusal = .inconsistentBikeShare found missing := by
  unfold ofPath at h
  split at h
  · exact inconsistent_of_classify h
  · cases h

end Trip

/-! ### What a path yields -/

/-- The response with a journey. -/
def Response.ofJourney (j : Journey) : Response :=
  { kind := ResponseKind.itineraryFound.number, journeys := [j] }

/-- How the request ends for what the engine has found. -/
inductive PathQuery.Yields (q : PathQuery) : Option Path → Except Halt Response → Prop where
  /-- There is no path, or one without maneuvers. -/
  | noPath {found : Option Path} :
    (∀ path ∈ found, path.maneuvers = []) →
    Yields q found (.ok .noSolution)
  /-- Each leg of the path becomes a section of the journey, and its totals fit. -/
  | journey {path trip ss j} :
    path.maneuvers ≠ [] →
    Trip.ofPath q.costing.mode path = .ok trip →
    (∀ leg ∈ trip.legs path.maneuvers.length, leg.Within path.maneuvers.length ∧ leg.Fits path) →
    q.journey.plan path q.costing = .ok ss →
    (∀ crash, ¬ q.journey.Overflows ss crash) →
    List.Forall₂
      (fun leg s => leg.toSection path q.costing.bikeShare q.journey.instructions = .ok s.plan)
      (trip.legs path.maneuvers.length) j.sections →
    Yields q (some path) (.ok (.ofJourney j))
  /-- Each leg of the path becomes a section, and the totals of these overflow. -/
  | overflown {path trip ss crash} :
    path.maneuvers ≠ [] →
    Trip.ofPath q.costing.mode path = .ok trip →
    (∀ leg ∈ trip.legs path.maneuvers.length, leg.Within path.maneuvers.length ∧ leg.Fits path) →
    q.journey.plan path q.costing = .ok ss →
    q.journey.Overflows ss crash →
    Yields q (some path) (.error (.crashed crash))
  /-- The marks of the path do not tell where a bike is taken and returned. -/
  | inconsistent {path found missing} :
    path.maneuvers ≠ [] →
    Trip.ofPath q.costing.mode path = .error (.inconsistentBikeShare found missing) →
    Yields q (some path) (.error (.refused (.inconsistentBikeShare found missing)))
  /-- A leg leaves the shape, or goes backward by more than one point. -/
  | outside {path trip leg index length} :
    path.maneuvers ≠ [] →
    Trip.ofPath q.costing.mode path = .ok trip →
    (∀ leg ∈ trip.legs path.maneuvers.length, leg.Within path.maneuvers.length) →
    leg ∈ trip.legs path.maneuvers.length →
    ¬ leg.Fits path →
    Yields q (some path) (.error (.refused (.shapeIndex index length)))

namespace PathQuery

variable {q : PathQuery} {path : Path} {elevation : Option ElevationSource}

/-- Assembling the journey along a path ends as the path yields. -/
lemma yields_assemble (hne : path.maneuvers ≠ []) :
    (q.journey.assemble path q.costing elevation).EndsIn fun o =>
      q.Yields (some path) (o.map Response.ofJourney) := by
  let st : Shared := { caches := .ofCapacities fun _ => 0 }
  refine (JourneyQuery.onlyCalls_assemble elevation).endsIn_of_run (s := st) ?_
  cases htrip : Trip.ofPath q.costing.mode path with
  | error refusal =>
    obtain ⟨found, missing, rfl⟩ := Trip.inconsistent_of_ofPath htrip
    rw [JourneyQuery.run_assemble_of_error htrip]
    exact .inconsistent hne htrip
  | ok trip =>
    have hwithin := Trip.within_legs hne htrip
    obtain ⟨halt, hplan, hrun⟩ | ⟨ss, hplan, hends⟩ :=
      q.journey.run_assemble_cases path q.costing elevation st
    · obtain ⟨leg, hleg, hhalt⟩ := JourneyQuery.exists_of_plan_eq_error htrip hplan
      obtain ⟨index, length, rfl⟩ := Leg.outside_of_toSection (hwithin leg hleg) hhalt
      rw [hrun]
      exact .outside hne htrip hwithin hleg fun hfits =>
        hfits.toSection_ne_error (hwithin leg hleg) hhalt
    · have hfits := (JourneyQuery.exists_plan_iff hne htrip).1 ⟨ss, hplan⟩
      have hlegs : ∀ leg ∈ trip.legs path.maneuvers.length,
          leg.Within path.maneuvers.length ∧ leg.Fits path :=
        fun leg hleg => ⟨hwithin leg hleg, hfits leg hleg⟩
      obtain ⟨j, hover, hrun⟩ | ⟨crash, hover, hrun⟩ := hends
      · obtain ⟨trip', htrip', hsections⟩ :=
          JourneyQuery.planned_of_assemble (Procedure.leads_of_run (Prod.ext hrun rfl))
        cases htrip.symm.trans htrip'
        rw [hrun]
        exact .journey hne htrip hlegs hplan hover hsections
      · rw [hrun]
        exact .overflown hne htrip hlegs hplan hover

variable {ss : List Section} {outcome : Except Halt Response}

/-- A path whose legs can be planned, with totals that fit, yields a journey with a section for each
leg. -/
lemma Yields.exists_journey (h : q.Yields (some path) outcome) (hne : path.maneuvers ≠ [])
    (hplan : q.journey.plan path q.costing = .ok ss)
    (hfits : ∀ crash, ¬ q.journey.Overflows ss crash) :
    ∃ j, j.sections.length = ss.length ∧ outcome = .ok (.ofJourney j) := by
  obtain ⟨trip, htrip, hss⟩ := JourneyQuery.forall₂_of_plan hplan
  cases h with
  | noPath hnone => exact absurd (hnone path rfl) hne
  | @journey _ _ _ j _ htrip' _ _ _ hsections =>
    cases htrip.symm.trans htrip'
    exact ⟨j, hsections.length_eq.symm.trans hss.length_eq, rfl⟩
  | overflown _ _ _ hplan' hover =>
    cases hplan.symm.trans hplan'
    exact absurd hover (hfits _)
  | inconsistent _ herror => cases htrip.symm.trans herror
  | outside _ htrip' _ hleg hout =>
    cases htrip.symm.trans htrip'
    exact absurd (Leg.forall_fits hss _ hleg) hout

/-- A path whose legs can be planned, with totals that overflow, yields this crash. -/
lemma Yields.eq_crashed {crash : Crash} (h : q.Yields (some path) outcome)
    (hne : path.maneuvers ≠ []) (hplan : q.journey.plan path q.costing = .ok ss)
    (hover : q.journey.Overflows ss crash) : outcome = .error (.crashed crash) := by
  obtain ⟨trip, htrip, hss⟩ := JourneyQuery.forall₂_of_plan hplan
  cases h with
  | noPath hnone => exact absurd (hnone path rfl) hne
  | journey _ _ _ hplan' hfits _ =>
    cases hplan.symm.trans hplan'
    exact absurd hover (hfits crash)
  | overflown _ _ _ hplan' hover' =>
    cases hplan.symm.trans hplan'
    rw [hover.unique hover']
  | inconsistent _ herror => cases htrip.symm.trans herror
  | outside _ htrip' _ hleg hout =>
    cases htrip.symm.trans htrip'
    exact absurd (Leg.forall_fits hss _ hleg) hout

end PathQuery

/-! ### The places of a request -/

namespace Projections

variable {e : Engine} {costing : Costing} {found : Projections} {asked : List Coordinate}
  {c : Coordinate} {location : Option Location}

/-- What the engine tells about some coordinates, when the caches are left alone: it finds or misses
each of them, or it breaks off at one. -/
def Tells (e : Engine) (costing : Costing) (asked : List Coordinate) :
    Except Halt Projections → Prop
  | .ok found =>
    found.Agrees e costing ∧ ∀ c ∈ asked, found.find? c = none → e.project c costing = .ok none
  | .error halt =>
    ∃ c ∈ asked, ∃ crash, e.project c costing = .error crash ∧ halt = .crashed crash

/-- One more coordinate is told about. -/
lemma Tells.insert (h : Tells e costing asked (.ok found))
    (hp : e.project c costing = .ok location) :
    Tells e costing (asked ++ [c]) (.ok (found.insert c location)) := by
  obtain ⟨hagree, hmissed⟩ := h
  cases location with
  | none =>
    refine ⟨hagree, List.forall_mem_append.2 ⟨hmissed, List.forall_mem_singleton.2 fun _ => hp⟩⟩
  | some l =>
    refine ⟨hagree.append hp, List.forall_mem_append.2
      ⟨fun c' hc' hnone => ?_, List.forall_mem_singleton.2 fun hnone => ?_⟩⟩
    · rw [Projections.insert, find?_append, Option.or_eq_none_iff] at hnone
      exact hmissed c' hc' hnone.1
    · rw [Projections.insert, find?_append, if_pos rfl, Option.or_eq_none_iff] at hnone
      cases hnone.2

/-- What is found tells about all that was asked, or about the crash of the engine. -/
lemma endsIn_extend (cs : List Coordinate) (h : Tells e costing asked (.ok found)) :
    (extend e costing false found cs).EndsIn (Tells e costing (asked ++ cs)) := by
  induction cs generalizing asked found with
  | nil =>
    rw [List.append_nil]
    exact .done h
  | cons c cs ih =>
    rw [List.append_cons]
    unfold extend
    split
    · next hc =>
      -- found before, so that the engine is not asked again
      refine ih ⟨h.1, List.forall_mem_append.2 ⟨h.2, List.forall_mem_singleton.2 fun hnone => ?_⟩⟩
      rw [has_eq_isSome, hnone] at hc
      cases hc
    · have hlocate := Procedure.endsIn_consult (.project c costing.mode) (e.project c costing)
      refine hlocate.bind (fun location hp => ih (h.insert (hp.1 _ rfl))) fun halt hhalt => ?_
      have hc : c ∈ asked ++ [c] := List.mem_append_right asked (List.mem_singleton_self c)
      exact ⟨c, List.mem_append_left cs hc, hhalt.2 halt rfl⟩

/-- What is found in one search tells about all that was asked, or about the crash of the engine. -/
lemma endsIn_ofCoordinates (e : Engine) (costing : Costing) (cs : List Coordinate) :
    (ofCoordinates e costing false cs).EndsIn (Tells e costing cs) := by
  have hnil : Tells e costing [] (.ok []) := ⟨nofun, nofun⟩
  exact endsIn_extend cs hnil

end Projections

namespace PathQuery

variable {q : PathQuery} {e : Engine}

/-- What the engine tells about both places: it finds them, it misses one, or it breaks off at
one. -/
def Locates (q : PathQuery) (e : Engine) : Except Halt (Location × Location) → Prop
  | .ok (origin, destination) =>
    e.project q.origin q.costing = .ok (some origin) ∧
      e.project q.destination q.costing = .ok (some destination)
  | .error (.refused reason) =>
    reason = .notProjected q.origin q.destination ∧
      (e.project q.origin q.costing = .ok none ∨ e.project q.destination q.costing = .ok none)
  | .error (.crashed crash) =>
    e.project q.origin q.costing = .error crash ∨ e.project q.destination q.costing = .error crash

/-- Both ends of a path are located, or the request is refused. -/
lemma endsIn_endpoints (q : PathQuery) (e : Engine) : (q.endpoints e).EndsIn (q.Locates e) := by
  refine (Projections.endsIn_ofCoordinates e q.costing _).bind (fun found hfound => ?_) ?_
  · obtain ⟨hagree, hmissed⟩ := hfound
    cases horigin : found.find? q.origin with
    | none =>
      have hnone := hmissed _ List.mem_cons_self horigin
      exact .halt ⟨rfl, .inl hnone⟩
    | some origin =>
      cases hdestination : found.find? q.destination with
      | none =>
        have hnone := hmissed _ (List.mem_cons_of_mem _ List.mem_cons_self) hdestination
        exact .halt ⟨rfl, .inr hnone⟩
      | some destination =>
        exact .done ⟨hagree _ _ horigin, hagree _ _ hdestination⟩
  · rintro halt ⟨c, hc, crash, hcrash, rfl⟩
    obtain rfl | hc := List.mem_cons.1 hc
    · exact .inl hcrash
    · obtain rfl := List.mem_singleton.1 hc
      exact .inr hcrash

/-- How the request ends, by what the engine tells. -/
inductive Concludes (q : PathQuery) (e : Engine) : Except Halt Response → Prop where
  /-- One of the places is missed, or the engine breaks off at one. -/
  | unlocated {halt} :
    q.Locates e (.error halt) →
    Concludes q e (.error halt)
  /-- The engine breaks off while it searches. -/
  | lost {origin destination crash} :
    q.Locates e (.ok (origin, destination)) →
    e.search origin destination q.costing = .error crash →
    Concludes q e (.error (.crashed crash))
  /-- The engine has searched for a path. -/
  | searched {origin destination found outcome} :
    q.Locates e (.ok (origin, destination)) →
    e.search origin destination q.costing = .ok found →
    q.Yields found outcome →
    Concludes q e outcome

/-- When both places are found and the engine has searched, the request ends as the path yields. -/
lemma Concludes.yields {origin destination : Location} {found : Option Path}
    {outcome : Except Halt Response} (h : q.Concludes e outcome)
    (hplaces : q.Locates e (.ok (origin, destination)))
    (hfound : e.search origin destination q.costing = .ok found) : q.Yields found outcome := by
  obtain ⟨horigin, hdestination⟩ := hplaces
  cases h with
  | @unlocated halt hmissed =>
    cases halt with
    | refused reason =>
      obtain ⟨-, hnone | hnone⟩ := hmissed
      · cases horigin.symm.trans hnone
      · cases hdestination.symm.trans hnone
    | crashed crash =>
      obtain hcrash | hcrash := hmissed
      · cases horigin.symm.trans hcrash
      · cases hdestination.symm.trans hcrash
  | lost hplaces hcrash =>
    cases horigin.symm.trans hplaces.1
    cases hdestination.symm.trans hplaces.2
    cases hfound.symm.trans hcrash
  | searched hplaces hfound' hyields =>
    cases horigin.symm.trans hplaces.1
    cases hdestination.symm.trans hplaces.2
    cases hfound.symm.trans hfound'
    exact hyields

/-- A search gives what the engine gives, but for paths without maneuvers. -/
lemma endsIn_search (q : PathQuery) (e : Engine) (origin destination : Location) :
    (q.search e origin destination).EndsIn fun o =>
      (∀ path?, o = .ok path? → ∃ found, e.search origin destination q.costing = .ok found ∧
        found.filter (fun p => !p.maneuvers.isEmpty) = path?) ∧
      ∀ halt, o = .error halt →
        ∃ crash, e.search origin destination q.costing = .error crash ∧ halt = .crashed crash := by
  refine (Procedure.endsIn_consult _ _).bind (fun found hfound => .done ⟨?_, nofun⟩) ?_
  · intro path? hpath
    exact ⟨found, hfound.1 found rfl, Except.ok.inj hpath⟩
  · exact fun halt hhalt => ⟨nofun, hhalt.2⟩

/-- A query concludes as its engine and its path tell. -/
lemma endsIn_respond (q : PathQuery) (e : Engine) (elevation : Option ElevationSource) :
    (q.respond e elevation).EndsIn (q.Concludes e) := by
  refine (q.endsIn_endpoints e).bind (fun (origin, destination) hplaces => ?_)
    fun halt hhalt => .unlocated hhalt
  refine (q.endsIn_search e origin destination).bind (fun path? hpath => ?_) fun halt hhalt => ?_
  · obtain ⟨found, hfound, hfilter⟩ := hpath.1 _ rfl
    cases path? with
    | none =>
      refine .done (.searched hplaces hfound (.noPath fun path hpath => ?_))
      rw [Option.filter_eq_none_iff] at hfilter
      simpa using hfilter path hpath
    | some path =>
      obtain ⟨rfl, hne⟩ := Option.filter_eq_some_iff.1 hfilter
      have hne : path.maneuvers ≠ [] := by simpa using hne
      refine (yields_assemble hne).bind (fun j hj => .done (.searched hplaces hfound hj))
        fun halt hhalt => .searched hplaces hfound hhalt
  · obtain ⟨crash, hcrash, rfl⟩ := hhalt.2 _ rfl
    exact .lost hplaces hcrash

end PathQuery

namespace DirectPathRequest

/-- How a request for a journey ends. -/
inductive Concludes (r : DirectPathRequest) (e : Engine) (routing : RoutingSettings) :
    Except Halt (Mode × Response) → Prop where
  /-- The request cannot be read. -/
  | unread {reason} :
    r.query routing = .error reason →
    Concludes r e routing (.error (.refused reason))
  /-- The request is read, and ends as the engine tells. -/
  | read {q outcome} :
    r.query routing = .ok q →
    q.Concludes e outcome →
    Concludes r e routing (outcome.map fun response => (q.mode, response))

/-- How a request ends, which may be refused before it is searched for. -/
lemma endsIn_answer (r : DirectPathRequest) (e : Engine) (routing : RoutingSettings)
    (elevation : Option ElevationSource) :
    (r.answer e routing elevation).EndsIn (r.Concludes e routing) := by
  unfold answer
  cases hq : r.query routing with
  | error reason => exact .halt (.unread hq)
  | ok q =>
    exact (q.endsIn_respond e elevation).bind (fun response h => .done (.read hq h))
      fun halt h => .read hq h

end DirectPathRequest

namespace Handler

/-- A request for a journey is dispatched to this operation, and what it ends with is measured. -/
lemma endsIn_dispatch_directPath (h : Handler) {req : Request} {r : DirectPathRequest}
    (hapi : req.api = .directPath) (hr : req.directPath = some r) :
    (h.dispatch req).EndsIn fun o =>
      ∃ outcome, r.Concludes h.engine h.routing outcome ∧ o = outcome.map (·.2) := by
  simp only [dispatch, hapi, hr]
  exact (r.endsIn_answer h.engine h.routing h.elevation).bind
    (fun x hx => .measure (.done ⟨_, hx, rfl⟩)) fun halt hx => ⟨_, hx, rfl⟩

/-- A request for a journey ends as the request, the engine and its path tell, whatever this path
is and whatever the caches hold. This is what is reported, and when it is no success, then there is
no journey in the response. -/
theorem concludes_directPath (h : Handler) (r : DirectPathRequest) :
    (r.answer h.engine h.routing h.elevation).EndsIn (r.Concludes h.engine h.routing) ∧
      ∀ req : Request, req.api = .directPath → req.directPath = some r →
        (h.handle req).EndsIn fun result => ∃ outcome, r.Concludes h.engine h.routing outcome ∧
          result = .ok (report (outcome.map (·.2)), h.clear) ∧
          ∀ halt, outcome = .error halt → (report (outcome.map (·.2))).journeys = [] := by
  refine ⟨r.endsIn_answer h.engine h.routing h.elevation, fun req hapi hr => ?_⟩
  have hdispatch := (h.start req).endsIn_dispatch_directPath hapi hr
  refine hdispatch.attempt.bind (fun o ho => ?_) nofun
  obtain ⟨o', heq, outcome, hconcludes, rfl⟩ := ho
  cases heq
  refine .done ⟨outcome, hconcludes, rfl, fun halt hhalt => ?_⟩
  subst hhalt
  cases halt with
  | refused reason => rfl
  | crashed crash => rfl

/-- A handler whose engine finds every place and one path. -/
def guide (path : Path) : Handler where
  engine := .fixed ⟨0, 0⟩ (some path) []
  routing := .default

/-- A request for a journey on a hired bike. -/
def outing : DirectPathRequest where
  origin := some { place := "0;1" }
  destination := some { place := "0;5" }
  datetime := 1000
  clockwise := true
  preferences := some
    { originMode := "bss"
      bssRentDuration := some 120
      bssReturnDuration := some 60
      enableInstructions := true }

/-- The request for a hired bike is read, and its journey is planned like the one along the way with
the hired bike. -/
lemma plan_outing (path : Path) : ∃ q, outing.query .default = .ok q ∧
    q.journey.plan path q.costing =
      JourneyQuery.plan ⟨1000, true, true⟩ path JourneyQuery.hireCosting ∧
    q.journey = ⟨1000, true, true⟩ := by
  have hread : (outing.query .default).map
      (fun q => (q.costing.mode, q.costing.bikeShare, q.journey)) =
      .ok (.bss, ⟨120, 0, 60, 0⟩, ⟨1000, true, true⟩) := by decide +kernel
  obtain ⟨q, hq, hvalues⟩ := exists_of_map_eq_ok hread
  simp only [Prod.mk.injEq] at hvalues
  obtain ⟨hmode, hcosts, hjourney⟩ := hvalues
  refine ⟨q, hq, ?_, hjourney⟩
  rw [hjourney]
  exact JourneyQuery.plan_congr hmode hcosts

/-- The way with the hired bike is found, its five legs are in its shape, and its totals fit. -/
theorem concludes_outing :
    let req : Request := { requestedApi := 2, directPath := some outing }
    req.api = .directPath ∧ req.directPath = some outing ∧
      ((guide JourneyQuery.hire).handle req).EndsIn fun result => ∃ j, j.sections.length = 5 ∧
        result = .ok (.ofJourney j, guide JourneyQuery.hire) := by
  intro req
  have hapi : req.api = .directPath := by decide
  obtain ⟨q, hq, hplan, hjourney⟩ := plan_outing JourneyQuery.hire
  have hplanned : (JourneyQuery.plan ⟨1000, true, true⟩ JourneyQuery.hire
      JourneyQuery.hireCosting).map (fun ss => (ss.length, decide (Totals.Fits ss),
        decide (JourneyQuery.PassesMiddle ⟨1000, true, true⟩ (Section.total ss)))) =
      .ok (5, true, false) := by decide +kernel
  obtain ⟨ss, hss, hvalues⟩ := exists_of_map_eq_ok hplanned
  simp only [Prod.mk.injEq, decide_eq_true_eq, decide_eq_false_iff_not] at hvalues
  obtain ⟨hlength, hfits, hpasses⟩ := hvalues
  have hnever : ∀ crash, ¬ q.journey.Overflows ss crash := by
    rw [hjourney]
    rintro _ (hover | ⟨-, hpasses'⟩)
    · exact hover hfits
    · exact hpasses hpasses'
  have hends := (concludes_directPath (guide JourneyQuery.hire) outing).2 req hapi rfl
  refine ⟨hapi, rfl, hends.imp ?_⟩
  rintro _ ⟨outcome, hconcludes, rfl, -⟩
  cases hconcludes with
  | unread herror => cases hq.symm.trans herror
  | read hq' hconcludes =>
    cases hq.symm.trans hq'
    have hyields := hconcludes.yields ⟨rfl, rfl⟩ rfl
    obtain ⟨j, hsections, rfl⟩ :=
      hyields.exists_journey (List.cons_ne_nil _ _) (hplan.trans hss) hnever
    exact ⟨j, hsections.trans hlength, rfl⟩

/-- With the longest walk to the station, the way with the hired bike ends in a crash, although no
engine breaks off. -/
lemma eq_of_concludes_outing_far {outcome : Except Halt (Mode × Response)}
    (h : outing.Concludes (guide JourneyQuery.hireFar).engine .default outcome) :
    outcome = .error (.crashed .sumOverflow) := by
  obtain ⟨q, hq, hplan, -⟩ := plan_outing JourneyQuery.hireFar
  have hplanned : (JourneyQuery.plan ⟨1000, true, true⟩ JourneyQuery.hireFar
      JourneyQuery.hireCosting).map (fun ss => decide (Totals.Fits ss)) = .ok false := by
    decide +kernel
  obtain ⟨ss, hss, hover⟩ := exists_of_map_eq_ok hplanned
  have hcrash : q.journey.Overflows ss .sumOverflow := .sum (of_decide_eq_false hover)
  cases h with
  | unread herror => cases hq.symm.trans herror
  | read hq' hconcludes =>
    cases hq.symm.trans hq'
    have hyields := hconcludes.yields ⟨rfl, rfl⟩ rfl
    rw [hyields.eq_crashed (List.cons_ne_nil _ _) (hplan.trans hss) hcrash]
    rfl

/-- The way with a hired bike on which the walks together take longer than a message can carry is
found, its legs are in its shape, and the request for it ends in a crash. -/
theorem not_concludes_outing_far :
    (∀ leg ∈ (Trip.bikeShare 1 2).legs JourneyQuery.hireFar.maneuvers.length,
      leg.Within JourneyQuery.hireFar.maneuvers.length ∧ leg.Fits JourneyQuery.hireFar) ∧
      (outing.answer (guide JourneyQuery.hireFar).engine .default none).EndsIn fun outcome =>
        outcome = .error (.crashed (.said "attempt to add with overflow")) := by
  have htrip : Trip.ofPath .bss JourneyQuery.hireFar = .ok (.bikeShare 1 2) := by decide
  have hfits : ∀ leg ∈ (Trip.bikeShare 1 2).legs JourneyQuery.hireFar.maneuvers.length,
      leg.Fits JourneyQuery.hireFar := by decide
  have hwithin := Trip.within_legs (List.cons_ne_nil _ _) htrip
  refine ⟨fun leg hleg => ⟨hwithin leg hleg, hfits leg hleg⟩, ?_⟩
  exact (outing.endsIn_answer _ _ none).imp fun outcome h => eq_of_concludes_outing_far h

end Handler

end Wayfinding
