import Wayfinding.Answer.Handler
import Wayfinding.Proofs.Journey.Reversal

/-!
# Requests that are being handled

A handler counts a request when it begins with it, and no longer counts it when it ends with it.
Whatever the engine does in between, crashes included, the count changes at no other moment.

Main definitions: `Procedure.Uncounted`, `Procedure.Inside`.
Main lemmas: `Procedure.Inside.step`, `Handler.exists_inside`.
-/

namespace Wayfinding

/-- One more measurement changes the number of requests in flight. -/
lemma Journal.inFlight_cons (m : Measurement) (j : Journal) :
    Journal.inFlight (m :: j) = m.inFlightChange + Journal.inFlight j := rfl

namespace Procedure

variable {α β : Type} {p : Procedure α}

/-- A procedure that does not change how many requests are counted. -/
inductive Uncounted : Procedure α → Prop where
  | done a : Uncounted (.done a)
  | halt r : Uncounted (.halt r)
  | lookup {g key next} :
    (∀ l, Uncounted (next l)) →
    Uncounted (.lookup g key next)
  | store {g key l next} :
    Uncounted next →
    Uncounted (.store g key l next)
  | inspect {next} :
    (∀ stats, Uncounted (next stats)) →
    Uncounted (.inspect next)
  | measure {m next} :
    m.inFlightChange = 0 →
    Uncounted next →
    Uncounted (.measure m next)
  | call {c next} :
    Uncounted next →
    Uncounted (.call c next)

/-- A procedure within the handling of a request: its last step is the one after which the request
is no longer counted, and no other step changes the count. -/
inductive Inside : Procedure α → Prop where
  | finish a : Inside (.measure .requestFinished (.done a))
  | lookup {g key next} :
    (∀ l, Inside (next l)) →
    Inside (.lookup g key next)
  | store {g key l next} :
    Inside next →
    Inside (.store g key l next)
  | inspect {next} :
    (∀ stats, Inside (next stats)) →
    Inside (.inspect next)
  | measure {m next} :
    m.inFlightChange = 0 →
    Inside next →
    Inside (.measure m next)
  | call {c next} :
    Inside next →
    Inside (.call c next)

/-! ### Putting procedures together -/

/-- Procedures that do not count may follow each other. -/
lemma Uncounted.bind {f : α → Procedure β} (hp : p.Uncounted) (hf : ∀ a, (f a).Uncounted) :
    (p.bind f).Uncounted := by
  induction hp with
  | done a => exact hf a
  | halt r => exact .halt r
  | lookup _ ih => exact .lookup ih
  | store _ ih => exact Uncounted.store ih
  | inspect _ ih => exact .inspect ih
  | measure hm _ ih => exact Uncounted.measure hm ih
  | call _ ih => exact Uncounted.call ih

/-- What is refused or done at once does not count. -/
lemma uncounted_ofExcept (x : Except Refusal α) : (ofExcept x).Uncounted := by
  cases x with
  | ok a => exact .done a
  | error r => exact .halt _

/-- A call does not count. -/
lemma uncounted_consult (c : Call) (x : Except Crash α) : (consult c x).Uncounted := by
  cases x with
  | ok a => exact .call (.done a)
  | error crash => exact .call (.halt _)

/-- A procedure that makes nothing but calls does not count. -/
lemma OnlyCalls.uncounted (hp : p.OnlyCalls) : p.Uncounted := by
  induction hp with
  | done a => exact .done a
  | halt r => exact .halt r
  | call c _ ih => exact .call ih

/-- Whether a procedure halts or not, what follows it ends the handling. -/
lemma Uncounted.attempt_bind {f : Except Halt α → Procedure β} (hp : p.Uncounted)
    (hf : ∀ o, (f o).Inside) : (p.attempt.bind f).Inside := by
  induction hp with
  | done a => exact hf _
  | halt r => exact hf _
  | lookup _ ih => exact .lookup ih
  | store _ ih => exact Inside.store ih
  | inspect _ ih => exact .inspect ih
  | measure hm _ ih => exact Inside.measure hm ih
  | call _ ih => exact Inside.call ih

/-- Within the handling, it does not matter what the value is used for. -/
lemma Inside.map (hp : p.Inside) (f : α → β) : (p.bind fun a => .done (f a)).Inside := by
  induction hp with
  | finish a => exact .finish (f a)
  | lookup _ ih => exact .lookup ih
  | store _ ih => exact Inside.store ih
  | inspect _ ih => exact .inspect ih
  | measure hm _ ih => exact Inside.measure hm ih
  | call _ ih => exact Inside.call ih

/-- Within the handling of a request a procedure has not ended. -/
lemma Inside.outcome?_eq_none (hp : p.Inside) : p.outcome? = none := by
  cases hp <;> rfl

/-- Whatever it finds, it can be brought to its end. -/
lemma Inside.ends (hp : p.Inside) : p.Ends := by
  induction hp with
  | finish a => exact .measure (.done a) _
  | lookup _ ih => exact fun _ => ih _ _
  | store _ ih => exact fun _ => ih _
  | inspect _ ih => exact fun _ => ih _ _
  | measure _ _ ih => exact .measure ih _
  | call _ ih => exact fun _ => ih _

/-- A step within the handling of a request leaves the count as it is, or ends the handling. -/
lemma Inside.step (hp : p.Inside) (s : Shared) :
    ((p.step s).1.Inside ∧ (p.step s).2.journal.inFlight = s.journal.inFlight) ∨
      ∃ a, (p.step s).1 = .done a ∧ (p.step s).2.journal.inFlight = s.journal.inFlight - 1 := by
  cases hp with
  | finish a => exact .inr ⟨a, rfl, (Journal.inFlight_cons ..).trans (Int.add_comm ..)⟩
  | lookup hn => exact .inl ⟨hn _, rfl⟩
  | store hn => exact .inl ⟨hn, rfl⟩
  | inspect hn => exact .inl ⟨hn _, rfl⟩
  | measure hm hn =>
    exact .inl ⟨hn, (Journal.inFlight_cons ..).trans (by rw [hm, Int.zero_add])⟩
  | call hn => exact .inl ⟨hn, rfl⟩

end Procedure

/-! ### Handlers -/

open Procedure (Uncounted Inside uncounted_ofExcept uncounted_consult)

namespace Projections

/-- Looking for a coordinate does not count. -/
lemma uncounted_locate (e : Engine) (costing : Costing) (useCache : Bool) (c : Coordinate) :
    (locate e costing useCache c).Uncounted := by
  have hconsult : (consult e costing c).Uncounted := uncounted_consult _ _
  unfold locate
  split
  · refine .lookup fun l => ?_
    cases l with
    | some l => exact .done _
    | none =>
      refine hconsult.bind fun l => ?_
      cases l with
      | some l => exact .store (.done _)
      | none => exact .done _
  · exact hconsult

/-- Looking for several coordinates does not count. -/
lemma uncounted_extend (e : Engine) (costing : Costing) (useCache : Bool) (found : Projections)
    (cs : List Coordinate) : (extend e costing useCache found cs).Uncounted := by
  induction cs generalizing found with
  | nil => exact .done _
  | cons c cs ih =>
    unfold extend
    split
    · exact ih found
    · exact (uncounted_locate e costing useCache c).bind fun _ => ih _

end Projections

/-- Looking for the places of a matrix does not count. -/
lemma MatrixQuery.uncounted_project (q : MatrixQuery) (e : Engine) (cs : List Coordinate)
    (whenEmpty : Refusal) : (q.project e cs whenEmpty).Uncounted := by
  refine (Projections.uncounted_extend ..).bind fun found => ?_
  split
  · exact .halt _
  · exact .done _

/-- Measuring the caches is not counting requests. -/
lemma uncounted_inspectCaches : inspectCaches.Uncounted := by
  refine .inspect fun stats => ?_
  exact .measure rfl (.measure rfl (.measure rfl (.done _)))

/-- Answering a request for a matrix does not count. -/
lemma MatrixRequest.uncounted_answer (r : MatrixRequest) (e : Engine) (routing : RoutingSettings) :
    (r.answer e routing).Uncounted := by
  refine (uncounted_ofExcept _).bind fun q => ?_
  have hmatrix : (q.matrix e).Uncounted :=
    (q.uncounted_project ..).bind fun _ => (q.uncounted_project ..).bind fun _ =>
      (uncounted_consult _ _).bind fun _ => .done _
  exact hmatrix.bind fun _ => uncounted_inspectCaches.bind fun _ => .done _

/-- Answering a query for a path does not count. -/
lemma PathQuery.uncounted_respond (q : PathQuery) (e : Engine)
    (elevation : Option ElevationSource) : (q.respond e elevation).Uncounted := by
  have hends : (q.endpoints e).Uncounted := by
    refine (Projections.uncounted_extend ..).bind fun found => ?_
    split
    · exact .done _
    · exact .halt _
  refine hends.bind fun ends => ?_
  refine Uncounted.bind ((uncounted_consult _ _).bind fun _ => .done _) fun path => ?_
  cases path with
  | none => exact .done _
  | some path => exact (JourneyQuery.onlyCalls_assemble elevation).uncounted.bind fun _ => .done _

/-- Answering a request for a path does not count. -/
lemma DirectPathRequest.uncounted_answer (r : DirectPathRequest) (e : Engine)
    (routing : RoutingSettings) (elevation : Option ElevationSource) :
    (r.answer e routing elevation).Uncounted :=
  (uncounted_ofExcept _).bind fun q => (q.uncounted_respond e elevation).bind fun _ => .done _

namespace Handler

/-- Answering a request of any kind does not count. -/
lemma uncounted_dispatch (h : Handler) (r : Request) : (h.dispatch r).Uncounted := by
  unfold dispatch
  split
  · exact .done _
  · split
    · exact .halt _
    · next m _ => exact (m.uncounted_answer _ _).bind fun _ => .measure rfl (.done _)
  · split
    · exact .halt _
    · next p _ => exact (p.uncounted_answer _ _ _).bind fun _ => .measure rfl (.done _)

/-- The handling of any bytes begins with the step that counts the request. -/
lemma exists_inside (h : Handler) (payload : List UInt8) :
    ∃ p, h.handlePayload payload = .measure .requestStarted p ∧ p.Inside := by
  refine ⟨_, rfl, ?_⟩
  unfold respond
  split
  · next r _ =>
    change (Procedure.bind (Procedure.bind _ _) _).Inside
    rw [Procedure.bind_assoc]
    exact (uncounted_dispatch _ r).attempt_bind fun _ => .finish _
  · exact .finish _

end Handler

end Wayfinding
