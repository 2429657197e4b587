import Wayfinding.Answer.Handler
import Wayfinding.Proofs.Lookup
import Wayfinding.Proofs.Matrix.Cells

/-!
# Answers without history

Handlers of several workers share their caches. Each takes one payload after another, and between
any two of its steps the others may do what they like. The reply to a payload is nevertheless the
one that a freshly built handler with empty caches would give.

Main definitions: `Crew.Step`, `Crew.Reachable`, `Handler.replyAfresh`.
Main statement: `Crew.Reachable.reply_afresh`.
-/

namespace Wayfinding

open Procedure (Settles Settled Visited)

variable {e : Engine} {capacity : Graph → Nat}

/-! ### What a handler does settles -/

namespace PathQuery

variable {q : PathQuery} {elevation : Option ElevationSource}

/-- Locating the ends of a path is settled by a steady engine. -/
lemma settled_endpoints (he : e.Steady) : (q.endpoints e).Settled e := by
  obtain ⟨o, ho, -⟩ :=
    Projections.settled_ofCoordinates he q.costing false [q.origin, q.destination]
  refine .bind ⟨o, ho⟩ fun found _ => ?_
  split
  · exact .done _
  · exact .refuse _

/-- A search is settled by a steady engine. -/
lemma settled_search (origin destination : Location) :
    (q.search e origin destination).Settled e :=
  .bind (Procedure.settled_consult _ _) fun _ _ => .done _

end PathQuery

/-- A profile is settled by its source. -/
lemma Section.settled_withProfile (elevation : Option ElevationSource) (s : Section) :
    (s.withProfile elevation).Settled e := by
  unfold withProfile
  split
  · split
    · exact .call _ (.done _)
    · exact .done _
  · exact .done _

namespace JourneyQuery

variable {q : JourneyQuery} {path : Path} {elevation : Option ElevationSource}

/-- The sections of a journey are settled by the source of the heights. -/
lemma settled_sections (costs : BikeShareCosts) (legs : List Leg) :
    (q.sections path costs elevation legs).Settled e := by
  induction legs with
  | nil => exact .done _
  | cons leg legs ih =>
    unfold sections
    cases leg.toSection path costs q.instructions with
    | ok s =>
      exact .bind (s.settled_withProfile elevation) fun _ _ => .bind ih fun _ _ => .done _
    | error halt => exact ⟨_, .halt⟩

/-- A journey is settled by the source of the heights. -/
lemma settled_assemble (costing : Costing) : (q.assemble path costing elevation).Settled e :=
  .bind (Procedure.settled_ofExcept _) fun _ _ =>
    .bind (settled_sections _ _) fun _ _ => ⟨_, Procedure.settles_risk _⟩

end JourneyQuery

/-- A query for a path is settled by a steady engine. -/
lemma PathQuery.settled_respond (he : e.Steady) (q : PathQuery)
    (elevation : Option ElevationSource) : (q.respond e elevation).Settled e := by
  refine .bind (settled_endpoints he) fun ends _ => ?_
  refine .bind (settled_search ends.1 ends.2) fun path _ => ?_
  cases path with
  | none => exact .done _
  | some path => exact .bind (JourneyQuery.settled_assemble _) fun _ _ => .done _

/-- A request for a path is settled by a steady engine. -/
lemma DirectPathRequest.settled_answer (he : e.Steady) (r : DirectPathRequest)
    (routing : RoutingSettings) (elevation : Option ElevationSource) :
    (r.answer e routing elevation).Settled e :=
  .bind (Procedure.settled_ofExcept _) fun q _ =>
    .bind (q.settled_respond he elevation) fun _ _ => .done _

namespace Handler

variable {h : Handler}

/-- A request of any kind is settled by a steady engine. -/
lemma settled_dispatch (he : h.engine.Steady) (r : Request) : (h.dispatch r).Settled h.engine := by
  unfold dispatch
  split
  · exact .done _
  · split
    · exact .refuse _
    · exact .bind (MatrixRequest.settled_answer he) fun _ _ => .measure _ (.done _)
  · split
    · exact .refuse _
    · next p _ =>
      exact .bind (p.settled_answer he h.routing h.elevation) fun _ _ => .measure _ (.done _)

/-- Whatever a handler still knows about an earlier request, it has the same reply to a payload. -/
lemma settles_handlePayload (he : h.engine.Steady) (payload : List UInt8) :
    ∃ reply, ∀ h' : Handler, h'.clear = h.clear →
      ∃ h'', h''.clear = h.clear ∧
        (h'.handlePayload payload).Settles h.engine (.ok (reply, h'')) := by
  cases hd : Request.decode? payload with
  | none =>
    refine ⟨unreadable.encode, fun h' hc => ⟨h', hc, ?_⟩⟩
    unfold handlePayload respond
    rw [hd]
    exact .measure (.bind .done (.measure .done))
  | some r =>
    obtain ⟨o, ho⟩ := settled_dispatch he r
    refine ⟨(report o).encode, fun h' hc => ⟨(h'.start r).clear, hc, ?_⟩⟩
    -- the request is handled by the engine and the settings alone
    have hsame : (h'.start r).dispatch r = h.dispatch r := by
      change h'.clear.dispatch r = h.clear.dispatch r
      rw [hc]
    unfold handlePayload respond
    rw [hd]
    refine .measure (.bind (a := (report o, (h'.start r).clear)) ?_ (.measure .done))
    refine .bind ?_ .done
    rw [hsame]
    exact ho.attempt

/-- What a freshly built handler replies to a payload, when nothing is cached. -/
def replyAfresh (h : Handler) (capacity : Graph → Nat) (payload : List UInt8) :
    Except Halt (List UInt8) :=
  ((h.clear.handlePayload payload).run { caches := .ofCapacities capacity }).1.map (·.1)

/-- What is left to do for a payload leads to the reply that a freshly built handler would give. -/
def Owes (h : Handler) (payload : List UInt8) (p : Procedure (List UInt8 × Handler)) : Prop :=
  ∃ reply h', p.Settles h.engine (.ok (reply, h')) ∧ h'.clear = h.clear ∧
    ∀ capacity, h.replyAfresh capacity payload = .ok reply

/-- Whatever a handler has answered before, it owes the reply of a fresh one. -/
lemma owes_handlePayload (he : h.engine.Steady) {h' : Handler} (hc : h'.clear = h.clear)
    (payload : List UInt8) : h.Owes payload (h'.handlePayload payload) := by
  obtain ⟨reply, hreply⟩ := settles_handlePayload he payload
  obtain ⟨h'', hc'', hs⟩ := hreply h' hc
  refine ⟨reply, h'', hs, hc'', fun capacity => ?_⟩
  obtain ⟨h₀, -, hs₀⟩ := hreply h.clear rfl
  have hv : Visited h.engine capacity { caches := .ofCapacities capacity } := .empty
  unfold replyAfresh
  rw [(hs₀.run hv).1]
  rfl

end Handler

/-! ### Handlers at work -/

/-- A handler with the payload in hand, if any, and what is left to do for it. -/
structure Seat where
  handler : Handler
  task : Option (List UInt8 × Procedure (List UInt8 × Handler)) := none

/-- A payload that was answered. -/
structure Answered where
  seat : Nat
  payload : List UInt8
  reply : List UInt8

/-- Handlers that share their caches. -/
structure Crew where
  seats : List Seat
  shared : Shared
  /-- What was answered, the oldest first. -/
  answered : List Answered := []

namespace Crew

variable {handlers : List Handler} {s s' : Crew}

/-- The steps of a crew. -/
inductive Step (s : Crew) : Crew → Prop where
  | begin {i h} (payload : List UInt8) :
    s.seats[i]? = some ⟨h, none⟩ →
    Step s { s with seats := s.seats.set i ⟨h, some (payload, h.handlePayload payload)⟩ }
  | work {i h payload p} :
    s.seats[i]? = some ⟨h, some (payload, p)⟩ →
    Step s { s with
      seats := s.seats.set i ⟨h, some (payload, (p.step s.shared).1)⟩
      shared := (p.step s.shared).2 }
  | finish {i h payload reply h'} :
    s.seats[i]? = some ⟨h, some (payload, .done (reply, h'))⟩ →
    Step s { s with
      seats := s.seats.set i ⟨h', none⟩
      answered := s.answered ++ [⟨i, payload, reply⟩] }

/-- The states of runs that begin with empty caches. -/
inductive Reachable (handlers : List Handler) (capacity : Graph → Nat) : Crew → Prop where
  | start :
    Reachable handlers capacity
      { seats := handlers.map (⟨·, none⟩), shared := { caches := .ofCapacities capacity } }
  | step {s s' : Crew} :
    Reachable handlers capacity s →
    Step s s' →
    Reachable handlers capacity s'

/-- Some steps of a crew. -/
abbrev Run : Crew → Crew → Prop := Relation.ReflTransGen Step

/-- A seat is as its handler has left it, but for what that knows about an earlier request. -/
structure Serves (h : Handler) (seat : Seat) : Prop where
  clear : seat.handler.clear = h.clear
  owes : ∀ payload p, seat.task = some (payload, p) → h.Owes payload p

/-- What holds of a crew in every state of a run. -/
structure Inv (e : Engine) (capacity : Graph → Nat) (handlers : List Handler) (s : Crew) :
    Prop where
  visited : Visited e capacity s.shared
  serves : ∀ (i : Nat) (seat : Seat), s.seats[i]? = some seat →
    ∃ h, handlers[i]? = some h ∧ Serves h seat
  afresh : ∀ a ∈ s.answered, ∃ h, handlers[a.seat]? = some h ∧
    ∀ capacity', h.replyAfresh capacity' a.payload = .ok a.reply

/-- One seat changes, and is served as before. -/
lemma serves_set {i : Nat} {seat : Seat} {h : Handler}
    (hs : ∀ (j : Nat) (t : Seat), s.seats[j]? = some t → ∃ h, handlers[j]? = some h ∧ Serves h t)
    (hi : handlers[i]? = some h) (hseat : Serves h seat) :
    ∀ (j : Nat) (t : Seat), (s.seats.set i seat)[j]? = some t →
      ∃ h, handlers[j]? = some h ∧ Serves h t := by
  intro j t ht
  rcases of_getElem?_set ht with ⟨rfl, rfl⟩ | ht
  · exact ⟨h, hi, hseat⟩
  · exact hs j t ht

/-- Every step keeps the crew in order. -/
lemma Step.inv (st : s.Step s') (he : e.Steady) (hall : ∀ h ∈ handlers, h.engine = e)
    (hs : s.Inv e capacity handlers) : s'.Inv e capacity handlers := by
  cases st with
  | @begin i h payload hi =>
    obtain ⟨h₀, hh, hserves⟩ := hs.serves i _ hi
    refine ⟨hs.visited, serves_set hs.serves hh ⟨hserves.clear, ?_⟩, hs.afresh⟩
    intro payload' p hp
    cases hp
    have hsteady : h₀.engine.Steady := hall h₀ (List.mem_of_getElem? hh) ▸ he
    exact Handler.owes_handlePayload hsteady hserves.clear payload
  | @work i h payload p hi =>
    obtain ⟨h₀, hh, hserves⟩ := hs.serves i _ hi
    obtain ⟨reply, h', hsettles, hclear, hafresh⟩ := hserves.owes payload p rfl
    rw [hall h₀ (List.mem_of_getElem? hh)] at hsettles
    obtain ⟨hrest, hvisited⟩ := hsettles.step hs.visited
    refine ⟨hvisited, serves_set hs.serves hh ⟨hserves.clear, ?_⟩, hs.afresh⟩
    intro payload' p' hp
    cases hp
    exact ⟨reply, h', hall h₀ (List.mem_of_getElem? hh) ▸ hrest, hclear, hafresh⟩
  | @finish i h payload reply h' hi =>
    obtain ⟨h₀, hh, hserves⟩ := hs.serves i _ hi
    obtain ⟨reply', h'', hsettles, hclear, hafresh⟩ := hserves.owes payload _ rfl
    cases hsettles
    refine ⟨hs.visited, serves_set hs.serves hh ⟨hclear, nofun⟩, ?_⟩
    intro a ha
    rcases List.mem_append.1 ha with hold | hnew
    · exact hs.afresh a hold
    · obtain rfl := List.mem_singleton.1 hnew
      exact ⟨h₀, hh, hafresh⟩

/-- Seats are served and caches are right, in every run. -/
lemma Reachable.inv (hs : s.Reachable handlers capacity) (he : e.Steady)
    (hall : ∀ h ∈ handlers, h.engine = e) : s.Inv e capacity handlers := by
  induction hs with
  | start =>
    refine ⟨.empty, ?_, nofun⟩
    intro i seat hi
    rw [List.getElem?_map, Option.map_eq_some_iff] at hi
    obtain ⟨h, hh, rfl⟩ := hi
    exact ⟨h, hh, rfl, nofun⟩
  | step _ st ih => exact st.inv he hall ih

/-- One handler may go on with its payload while the others rest. -/
lemma run_of_steps {i : Nat} {h : Handler} {payload : List UInt8}
    {p p' : Procedure (List UInt8 × Handler)} {shared' : Shared}
    (hi : s.seats[i]? = some ⟨h, some (payload, p)⟩)
    (hsteps : Procedure.Steps (p, s.shared) (p', shared')) :
    Run s { s with
      seats := s.seats.set i ⟨h, some (payload, p')⟩
      shared := shared' } := by
  obtain ⟨hlt, hseat⟩ := List.getElem?_eq_some_iff.1 hi
  let after (x : Procedure (List UInt8 × Handler) × Shared) : Crew :=
    { s with
      seats := s.seats.set i ⟨h, some (payload, x.1)⟩
      shared := x.2 }
  have hstart : after (p, s.shared) = s := by
    change { s with seats := s.seats.set i ⟨h, some (payload, p)⟩ } = s
    rw [← hseat, List.set_getElem_self]
  have hrun : Run (after (p, s.shared)) (after (p', shared')) := by
    refine hsteps.lift after fun x y hxy => ?_
    subst hxy
    have hx : (after x).seats[i]? = some ⟨h, some (payload, x.1)⟩ := List.getElem?_set_self hlt
    have hstep := Step.work hx
    simp only [after, List.set_set] at hstep
    exact hstep
  rw [hstart] at hrun
  exact hrun

/-- What a handler has begun, it may end. -/
lemma run_of_run {i : Nat} {h h' : Handler} {payload reply : List UInt8}
    {p : Procedure (List UInt8 × Handler)} {shared' : Shared}
    (hi : s.seats[i]? = some ⟨h, some (payload, p)⟩)
    (hrun : p.run s.shared = (.ok (reply, h'), shared')) :
    Run s
      { seats := s.seats.set i ⟨h', none⟩
        shared := shared'
        answered := s.answered ++ [⟨i, payload, reply⟩] } := by
  obtain ⟨hlt, -⟩ := List.getElem?_eq_some_iff.1 hi
  have hwork := run_of_steps hi (Procedure.steps_of_run hrun)
  have hfinish := Step.finish (List.getElem?_set_self hlt) (s := { s with
    seats := s.seats.set i ⟨h, some (payload, .done (reply, h'))⟩
    shared := shared' })
  simp only [List.set_set] at hfinish
  exact hwork.tail hfinish

/-- Let the handlers of a crew have one engine, which heeds only the graph when it projects a
coordinate. Whatever they have been given before, and however their steps interleave, each payload
is answered as a freshly built handler with empty caches of any capacity would answer it; and an
answer that has begun can always be brought to its end. -/
theorem Reachable.reply_afresh (hs : s.Reachable handlers capacity) (he : e.Steady)
    (hall : ∀ h ∈ handlers, h.engine = e) :
    (∀ a ∈ s.answered, ∃ h, handlers[a.seat]? = some h ∧
      ∀ capacity', h.replyAfresh capacity' a.payload = .ok a.reply) ∧
    ∀ (i : Nat) h payload p, s.seats[i]? = some ⟨h, some (payload, p)⟩ →
      ∃ s' h' reply, Run s s' ∧ s'.seats = s.seats.set i ⟨h', none⟩ ∧
        s'.answered = s.answered ++ [⟨i, payload, reply⟩] := by
  have hinv := hs.inv he hall
  refine ⟨hinv.afresh, fun i h payload p hi => ?_⟩
  obtain ⟨h₀, hh, hserves⟩ := hinv.serves i _ hi
  obtain ⟨reply, h', hsettles, -, -⟩ := hserves.owes payload p rfl
  rw [hall h₀ (List.mem_of_getElem? hh)] at hsettles
  exact ⟨_, h', reply, run_of_run hi (Prod.ext (hsettles.run hinv.visited).1 rfl), rfl, rfl⟩

/-- A place of the hamlet at which the engine crashes. -/
def pitfalls : List (Coordinate × Crash) := [(⟨.ofNat 9, .ofNat 48⟩, .silent)]

/-- A handler of the hamlet. -/
def villager : Handler where
  engine := MatrixRequest.hamlet.engine.failing pitfalls [] none
  routing := .default

/-- The errand as it is sent. -/
def errand : List UInt8 := Request.encode { requestedApi := 1, matrix := some .errand }

/-- An errand that starts where the engine crashes. -/
def trouble : List UInt8 :=
  Request.encode
    { requestedApi := 1
      matrix := some
        { MatrixRequest.errand with origins := [{ place := "2;48" }, { place := "9;48" }] } }

/-- More steps lead to what is reachable. -/
lemma Reachable.run (hs : s.Reachable handlers capacity) (hrun : Run s s') :
    s'.Reachable handlers capacity := by
  induction hrun with
  | refl => exact hs
  | tail _ st ih => exact ih.step st

/-- One handler crashes, another answers the errand, and the first answers it again. -/
theorem reply_afresh_villagers :
    villager.engine.Steady ∧ (∀ h ∈ [villager, villager], h.engine = villager.engine) ∧
      ∃ s, Reachable [villager, villager] (fun _ => 1) s ∧
        s.answered =
          [⟨0, trouble, (Response.refusal .internal "unknown panic").encode⟩,
            ⟨1, errand, Response.encode { matrix := some MatrixRequest.errandMatrix }⟩,
            ⟨0, errand, Response.encode { matrix := some MatrixRequest.errandMatrix }⟩] ∧
        ∀ a ∈ s.answered, ∀ capacity', villager.replyAfresh capacity' a.payload = .ok a.reply := by
  have hsteady : villager.engine.Steady :=
    (Engine.steady_straightLine MatrixRequest.hamlet).failing pitfalls [] none
  have hall : ∀ h ∈ [villager, villager], h.engine = villager.engine := by
    intro h hh
    simp only [List.mem_cons, List.not_mem_nil, or_false, or_self] at hh
    rw [hh]
  have htrouble : villager.replyAfresh (fun _ => 0) trouble =
      .ok (Response.refusal .internal "unknown panic").encode := by decide +kernel
  have herrand : villager.replyAfresh (fun _ => 0) errand =
      .ok (Response.encode { matrix := some MatrixRequest.errandMatrix }) := by decide +kernel
  have hafresh : ∀ s, Reachable [villager, villager] (fun _ => 1) s → ∀ a ∈ s.answered,
      ∀ capacity', villager.replyAfresh capacity' a.payload = .ok a.reply := by
    intro s hs a ha
    obtain ⟨h, hh, hreply⟩ := (hs.reply_afresh hsteady hall).1 a ha
    have hmem := List.mem_of_getElem? hh
    simp only [List.mem_cons, List.not_mem_nil, or_false, or_self] at hmem
    exact hmem ▸ hreply
  -- the first handler is given the trouble, the second the errand, before either ends
  have begun : Reachable [villager, villager] (fun _ => 1) _ :=
    .step (.step .start (.begin (i := 0) trouble rfl)) (.begin (i := 1) errand rfl)
  obtain ⟨s₁, h₁, r₁, run₁, seats₁, answered₁⟩ :=
    (begun.reply_afresh hsteady hall).2 0 _ _ _ rfl
  have crashed := begun.run run₁
  obtain ⟨s₂, h₂, r₂, run₂, seats₂, answered₂⟩ :=
    (crashed.reply_afresh hsteady hall).2 1 villager errand (villager.handlePayload errand)
      (by rw [seats₁]; rfl)
  have served := crashed.run run₂
  have again := served.step (.begin (i := 0) errand (by rw [seats₂, seats₁]; rfl))
  obtain ⟨s₃, h₃, r₃, run₃, -, answered₃⟩ :=
    (again.reply_afresh hsteady hall).2 0 h₁ errand (h₁.handlePayload errand)
      (by rw [seats₂, seats₁]; rfl)
  have ended := again.run run₃
  have hanswered : s₃.answered = [⟨0, trouble, r₁⟩, ⟨1, errand, r₂⟩, ⟨0, errand, r₃⟩] := by
    rw [answered₃]
    change s₂.answered ++ _ = _
    rw [answered₂, answered₁]
    rfl
  have hreply := hafresh s₃ ended
  rw [hanswered] at hreply
  simp only [List.forall_mem_cons] at hreply
  obtain ⟨hr₁, hr₂, hr₃, -⟩ := hreply
  cases htrouble.symm.trans (hr₁ _)
  cases herrand.symm.trans (hr₂ _)
  cases herrand.symm.trans (hr₃ _)
  exact ⟨hsteady, hall, s₃, ended, hanswered, hafresh s₃ ended⟩

end Crew

end Wayfinding
