import Wayfinding.Proofs.Answer.Procedure

/-!
# Outcomes of procedures

`Procedure.EndsIn Q p` says that `p` ends in `Q`, with a value or with a halt, whatever it finds in
the shared state. What a handler does for a matrix ends in a value that is known in part, in a
refusal, or in a crash of its engine, and never in a crash of its own.

Main definitions: `Procedure.EndsIn`, `Engine.Crashes`, `Engine.Accounts`.
Main lemmas: `Procedure.EndsIn.of_attempt`, `Procedure.OnlyCalls.endsIn_of_run`,
`MatrixRequest.answer_accountable`.
-/

namespace Wayfinding

namespace Procedure

variable {α β : Type} {P : Shared → Prop} {p p' : Procedure α} {Q : Except Halt α → Prop}
  {R : Except Halt β → Prop}

/-- The procedure ends in one of some ways, whatever it finds. -/
inductive EndsIn (Q : Except Halt α → Prop) : Procedure α → Prop where
  | done {a} :
    Q (.ok a) →
    EndsIn Q (.done a)
  | halt {r} :
    Q (.error r) →
    EndsIn Q (.halt r)
  | lookup {g key next} :
    (∀ l, EndsIn Q (next l)) →
    EndsIn Q (.lookup g key next)
  | store {g key l next} :
    EndsIn Q next →
    EndsIn Q (.store g key l next)
  | inspect {next} :
    (∀ stats, EndsIn Q (next stats)) →
    EndsIn Q (.inspect next)
  | measure {m next} :
    EndsIn Q next →
    EndsIn Q (.measure m next)
  | call {c next} :
    EndsIn Q next →
    EndsIn Q (.call c next)

/-- What goes on after a procedure ends as it does from each of its values. -/
lemma EndsIn.bind {f : α → Procedure β} (hp : p.EndsIn Q) (hok : ∀ a, Q (.ok a) → (f a).EndsIn R)
    (herror : ∀ r, Q (.error r) → R (.error r)) : (p.bind f).EndsIn R := by
  induction hp with
  | done ha => exact hok _ ha
  | halt hr => exact .halt (herror _ hr)
  | lookup _ ih => exact .lookup ih
  | store _ ih => exact .store ih
  | inspect _ ih => exact .inspect ih
  | measure _ ih => exact .measure ih
  | call _ ih => exact .call ih

/-- With its halt as a value, the procedure ends with a value that is one of these ways. -/
lemma EndsIn.attempt (hp : p.EndsIn Q) : p.attempt.EndsIn fun o => ∃ o', o = .ok o' ∧ Q o' := by
  induction hp with
  | done ha => exact .done ⟨_, rfl, ha⟩
  | halt hr => exact .done ⟨_, rfl, hr⟩
  | lookup _ ih => exact .lookup ih
  | store _ ih => exact .store ih
  | inspect _ ih => exact .inspect ih
  | measure _ ih => exact .measure ih
  | call _ ih => exact .call ih

/-- A procedure ends in the same ways after a step. -/
lemma EndsIn.step (hp : p.EndsIn Q) (s : Shared) : (p.step s).1.EndsIn Q := by
  cases hp with
  | done ha => exact .done ha
  | halt hr => exact .halt hr
  | lookup hn => exact hn _
  | store hn => exact hn
  | inspect hn => exact hn _
  | measure hn => exact hn
  | call hn => exact hn

/-- A procedure ends in the same ways after any steps. -/
lemma EndsIn.of_leads (hp : p.EndsIn Q) (hl : Leads P p p') : p'.EndsIn Q := by
  induction hl with
  | refl => exact hp
  | step _ _ ih => exact ih.step _

/-- The outcome of an attempt is one of those in which the procedure ends. -/
lemma EndsIn.of_attempt (hp : p.EndsIn Q) {o : Except Halt α} (hl : Leads P p.attempt (.done o)) :
    Q o := by
  cases hp.attempt.of_leads hl with
  | done ho =>
    obtain ⟨o', heq, ho'⟩ := ho
    cases heq
    exact ho'

/-- What holds of all outcomes implies what follows from it. -/
lemma EndsIn.imp {R : Except Halt α → Prop} (hp : p.EndsIn Q) (h : ∀ o, Q o → R o) :
    p.EndsIn R := by
  induction hp with
  | done ha => exact .done (h _ ha)
  | halt hr => exact .halt (h _ hr)
  | lookup _ ih => exact .lookup ih
  | store _ ih => exact .store ih
  | inspect _ ih => exact .inspect ih
  | measure _ ih => exact .measure ih
  | call _ ih => exact .call ih

/-- A procedure that only calls ends as one run of it tells. -/
lemma OnlyCalls.endsIn_of_run (hp : p.OnlyCalls) {s : Shared} (h : Q (p.run s).1) :
    p.EndsIn Q := by
  induction hp generalizing s with
  | done a => exact .done h
  | halt r => exact .halt h
  | call c _ ih => exact .call (ih h)

/-- A call gives what its collaborator gives, or breaks off as it does. -/
lemma endsIn_consult (c : Call) (x : Except Crash α) :
    (consult c x).EndsIn fun o => (∀ a, o = .ok a → x = .ok a) ∧
      ∀ halt, o = .error halt → ∃ crash, x = .error crash ∧ halt = .crashed crash := by
  cases x with
  | ok a =>
    refine .call (.done ⟨fun b hb => ?_, nofun⟩)
    rw [Except.ok.inj hb]
  | error crash =>
    exact .call (.halt ⟨nofun, fun halt h => ⟨crash, rfl, (Except.error.inj h).symm⟩⟩)

end Procedure

/-! ### What handlers account for -/

namespace Engine

variable {α β : Type} {e : Engine} {Q : α → Prop} {R : β → Prop} {p : Procedure α}

/-- Some call of the engine breaks off in this way. -/
inductive Crashes (e : Engine) (crash : Crash) : Prop where
  | project {c costing} :
    e.project c costing = .error crash →
    Crashes e crash
  | search {origin destination costing} :
    e.search origin destination costing = .error crash →
    Crashes e crash
  | searchMatrix {sources targets costing maxDistance} :
    e.searchMatrix sources targets costing maxDistance = .error crash →
    Crashes e crash

/-- A value with a property, a refusal, or a crash of the engine. -/
def Accounts (e : Engine) (Q : α → Prop) : Except Halt α → Prop
  | .ok a => Q a
  | .error (.refused _) => True
  | .error (.crashed crash) => e.Crashes crash

/-- The procedure ends with such a value, or else as requests may end. -/
abbrev Accountable (e : Engine) (p : Procedure α) (Q : α → Prop) : Prop := p.EndsIn (e.Accounts Q)

/-- A value accounts for itself. -/
lemma accountable_done {a : α} (ha : Q a) : e.Accountable (.done a) Q := .done ha

/-- A refusal needs no account. -/
lemma accountable_refuse (r : Refusal) : e.Accountable (.refuse r) Q := .halt trivial

/-- Procedures are accounted for one after the other. -/
lemma Accountable.bind {f : α → Procedure β} (hp : e.Accountable p Q)
    (hf : ∀ a, Q a → e.Accountable (f a) R) : e.Accountable (p.bind f) R := by
  refine Procedure.EndsIn.bind hp hf fun r hr => ?_
  cases r with
  | refused reason => trivial
  | crashed crash => exact hr

/-- What is refused or done at once is accounted for. -/
lemma accountable_ofExcept {x : Except Refusal α} (h : ∀ a, x = .ok a → Q a) :
    e.Accountable (.ofExcept x) Q := by
  cases x with
  | ok a => exact accountable_done (h a rfl)
  | error r => exact accountable_refuse r

/-- A call is accounted for by the engine. -/
lemma accountable_consult {x : Except Crash α} (h : ∀ a, x = .ok a → Q a)
    (hcrash : ∀ crash, x = .error crash → e.Crashes crash) (c : Call) :
    e.Accountable (.consult c x) Q := by
  cases x with
  | ok a => exact .call (.done (h a rfl))
  | error crash => exact .call (.halt (hcrash crash rfl))

end Engine

open Engine (Accountable accountable_done accountable_refuse accountable_ofExcept
  accountable_consult)

variable {e : Engine}

namespace Projections

variable {costing : Costing}

/-- Asking where a coordinate is breaks off only if the engine does. -/
lemma consult_accountable (c : Coordinate) : e.Accountable (consult e costing c) fun _ => True :=
  accountable_consult (fun _ _ => trivial) (fun _ h => .project h) _

/-- Looking a coordinate up, with or without the cache, breaks off only if the engine does. -/
lemma locate_accountable (useCache : Bool) (c : Coordinate) :
    e.Accountable (locate e costing useCache c) fun _ => True := by
  cases useCache with
  | false => exact consult_accountable c
  | true =>
    refine .lookup fun l => ?_
    cases l with
    | some location => exact accountable_done trivial
    | none =>
      refine (consult_accountable c).bind fun found _ => ?_
      cases found with
      | some location => exact .store (accountable_done trivial)
      | none => exact accountable_done trivial

/-- Looking for several coordinates breaks off only if the engine does. -/
lemma ofCoordinates_accountable (useCache : Bool) (cs : List Coordinate) :
    e.Accountable (ofCoordinates e costing useCache cs) fun _ => True := by
  suffices h : ∀ found, e.Accountable (extend e costing useCache found cs) fun _ => True from h []
  induction cs with
  | nil => exact fun _ => accountable_done trivial
  | cons c cs ih =>
    intro found
    unfold extend
    split
    · exact ih found
    · exact (locate_accountable useCache c).bind fun location _ => ih _

end Projections

/-! ### Matrices -/

/-- Computing a matrix breaks off only if the engine does. -/
lemma MatrixQuery.matrix_accountable (q : MatrixQuery) :
    e.Accountable (q.matrix e) fun _ => True := by
  have hproject (cs : List Coordinate) (whenEmpty : Refusal) :
      e.Accountable (q.project e cs whenEmpty) fun _ => True := by
    refine (Projections.ofCoordinates_accountable _ cs).bind fun found _ => ?_
    split
    · exact accountable_refuse _
    · exact accountable_done trivial
  refine (hproject _ _).bind fun sources _ => ?_
  refine (hproject _ _).bind fun targets _ => ?_
  refine Accountable.bind (accountable_consult (fun _ _ => trivial) (fun _ h => .searchMatrix h) _)
    fun results (_ : True) => ?_
  exact accountable_done trivial

/-- Looking at the caches does not break off. -/
lemma inspectCaches_accountable : e.Accountable inspectCaches fun _ => True := by
  refine .inspect fun stats => ?_
  induction Graph.all with
  | nil => exact accountable_done trivial
  | cons g gs ih => exact .measure ih

/-- A matrix request ends with a response that holds a matrix and nothing else. -/
lemma MatrixRequest.answer_accountable (r : MatrixRequest) (routing : RoutingSettings) :
    e.Accountable (r.answer e routing) fun x => ∃ m, x.2 = { matrix := some m } := by
  refine Accountable.bind (accountable_ofExcept fun _ _ => trivial) fun q (_ : True) => ?_
  refine q.matrix_accountable.bind fun m _ => ?_
  refine inspectCaches_accountable.bind fun _ _ => ?_
  exact accountable_done ⟨m, rfl⟩

end Wayfinding
