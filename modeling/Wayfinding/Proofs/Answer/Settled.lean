import Wayfinding.Proofs.Answer.Procedure
import Wayfinding.Proofs.Projection.Faithful

/-!
# Procedures that settle

A procedure that consults the caches takes different steps after different histories. What it ends
with need not depend on them: `Procedure.Settles e p o` says that `p` ends with `o` whatever it
finds in the caches, as long as that is what the engine `e` would find.

Main definitions: `Procedure.Settles`, `Procedure.Settled`.
Main lemmas: `Settles.bind`, `Settles.step`, `Settles.of_leads`, `Settles.run`, `Settles.leads_run`.
-/

namespace Wayfinding.Procedure

variable {α β : Type} {e : Engine} {capacity : Graph → Nat} {p p' : Procedure α}
  {f : α → Procedure β} {a : α} {o : Except Halt α} {s s' : Shared}

/-- The procedure ends in one way, whatever faithful caches its steps find. -/
inductive Settles (e : Engine) : Procedure α → Except Halt α → Prop where
  | done {a : α} :
    Settles e (.done a) (.ok a)
  | halt {r : Halt} :
    Settles e (.halt r) (.error r)
  | lookup {g key next o} :
    Settles e (next none) o →
    (∀ l, e.Locates g key l → Settles e (next (some l)) o) →
    Settles e (.lookup g key next) o
  | store {g key l next o} :
    e.Locates g key l →
    Settles e next o →
    Settles e (.store g key l next) o
  | inspect {next o} :
    (∀ stats, Settles e (next stats) o) →
    Settles e (.inspect next) o
  | measure {m next o} :
    Settles e next o →
    Settles e (.measure m next) o
  | call {c next o} :
    Settles e next o →
    Settles e (.call c next) o

/-- The procedure settles on something. -/
def Settled (e : Engine) (p : Procedure α) : Prop := ∃ o, p.Settles e o

/-- The caches that runs of workers with the engine come to. -/
abbrev Visited (e : Engine) (capacity : Graph → Nat) (s : Shared) : Prop :=
  s.caches.Reachable e capacity

/-! ### Putting procedures together -/

/-- What goes on after a value settles as it does from this value. -/
lemma Settles.bind {o : Except Halt β} (hp : p.Settles e (.ok a)) (hf : (f a).Settles e o) :
    (p.bind f).Settles e o := by
  generalize ho : Except.ok a = x at hp
  induction hp with
  | done =>
    cases ho
    exact hf
  | halt => cases ho
  | lookup _ _ ihn ihs => exact .lookup (ihn ho) fun l hl => ihs l hl ho
  | store hl _ ih => exact .store hl (ih ho)
  | inspect _ ih => exact .inspect fun stats => ih stats ho
  | measure _ ih => exact .measure (ih ho)
  | call _ ih => exact .call (ih ho)

/-- What breaks off settles so, whatever would come after it. -/
lemma Settles.bind_error {r : Halt} (hp : p.Settles e (.error r)) (f : α → Procedure β) :
    (p.bind f).Settles e (.error r) := by
  generalize ho : Except.error r = x at hp
  induction hp with
  | done => cases ho
  | halt =>
    cases ho
    exact .halt
  | lookup _ _ ihn ihs => exact .lookup (ihn ho) fun l hl => ihs l hl ho
  | store hl _ ih => exact .store hl (ih ho)
  | inspect _ ih => exact .inspect fun stats => ih stats ho
  | measure _ ih => exact .measure (ih ho)
  | call _ ih => exact .call (ih ho)

/-- An attempt settles on the outcome. -/
lemma Settles.attempt (hp : p.Settles e o) : p.attempt.Settles e (.ok o) := by
  induction hp with
  | done => exact .done
  | halt => exact .done
  | lookup _ _ ihn ihs => exact .lookup ihn ihs
  | store hl _ ih => exact .store hl ih
  | inspect _ ih => exact .inspect ih
  | measure _ ih => exact .measure ih
  | call _ ih => exact .call ih

/-- Procedures that are settled may follow each other. -/
lemma Settled.bind (hp : p.Settled e) (hf : ∀ a, p.Settles e (.ok a) → (f a).Settled e) :
    (p.bind f).Settled e := by
  obtain ⟨o, ho⟩ := hp
  cases o with
  | ok a =>
    obtain ⟨o', ho'⟩ := hf a ho
    exact ⟨o', ho.bind ho'⟩
  | error r => exact ⟨.error r, ho.bind_error f⟩

/-- A value is settled. -/
lemma Settled.done (a : α) : (Procedure.done a).Settled e := ⟨_, .done⟩

/-- A refusal is settled. -/
lemma Settled.refuse (r : Refusal) : (refuse r : Procedure α).Settled e := ⟨_, .halt⟩

/-- A measurement unsettles nothing. -/
lemma Settled.measure (m : Measurement) (hp : p.Settled e) : (Procedure.measure m p).Settled e := by
  obtain ⟨o, ho⟩ := hp
  exact ⟨o, .measure ho⟩

/-- A call unsettles nothing. -/
lemma Settled.call (c : Call) (hp : p.Settled e) : (Procedure.call c p).Settled e := by
  obtain ⟨o, ho⟩ := hp
  exact ⟨o, .call ho⟩

/-- What is refused or done at once is settled. -/
lemma settled_ofExcept (x : Except Refusal α) : (ofExcept x).Settled e := by
  cases x with
  | ok a => exact .done a
  | error r => exact .refuse r

/-- What may crash settles on a value or a crash. -/
lemma settles_risk (x : Except Crash α) : (risk x).Settles e (x.mapError .crashed) := by
  cases x with
  | ok a => exact .done
  | error crash => exact .halt

/-- A collaborator that is consulted either answers or crashes. -/
lemma settles_consult (c : Call) (x : Except Crash α) :
    (consult c x).Settles e (x.mapError .crashed) :=
  .call (settles_risk x)

/-- A call whose outcome is known is settled. -/
lemma settled_consult (c : Call) (x : Except Crash α) : (consult c x).Settled e :=
  ⟨_, settles_consult c x⟩

/-! ### Running procedures -/

/-- A step leaves open no other end. -/
lemma Settles.step (hp : p.Settles e o) (hs : Visited e capacity s) :
    (p.step s).1.Settles e o ∧ Visited e capacity (p.step s).2 := by
  cases hp with
  | done => exact ⟨.done, hs⟩
  | halt => exact ⟨.halt, hs⟩
  | @lookup g key next _ hn hf =>
    refine ⟨?_, hs.lookup g key⟩
    change (next (s.caches.lookup g key).1).Settles e o
    cases hr : (s.caches.lookup g key).1 with
    | none => exact hn
    | some l => exact hf l (hs.locates hr)
  | store hl hn => exact ⟨hn, hs.store hl⟩
  | inspect hn => exact ⟨hn _, hs⟩
  | measure hn => exact ⟨hn, hs⟩
  | call hn => exact ⟨hn, hs⟩

/-- Whatever others do between its steps, a procedure goes where it settles. -/
lemma Settles.of_leads (hp : p.Settles e o) (hl : Leads (Visited e capacity) p p') :
    p'.Settles e o := by
  induction hl with
  | refl => exact hp
  | step _ hs ih => exact (ih.step hs).1

/-- What a procedure comes to is what it settles on. -/
lemma Settles.eq_ok (hp : p.Settles e o) (hl : Leads (Visited e capacity) p (.done a)) :
    o = .ok a := by
  cases hp.of_leads hl
  rfl

/-- A procedure that is not interrupted comes to what it settles on. -/
lemma Settles.run (hp : p.Settles e o) (hs : Visited e capacity s) :
    (p.run s).1 = o ∧ Visited e capacity (p.run s).2 := by
  induction hp generalizing s with
  | done => exact ⟨rfl, hs⟩
  | halt => exact ⟨rfl, hs⟩
  | @lookup g key next _ hn hf ihn ihf =>
    have hv : Visited e capacity { s with caches := (s.caches.lookup g key).2 } := hs.lookup g key
    simp only [Procedure.run]
    cases hr : (s.caches.lookup g key).1 with
    | none => exact ihn hv
    | some l => exact ihf l (hs.locates hr) hv
  | store hl _ ih => exact ih (hs.store hl)
  | inspect _ ih => exact ih _ hs
  | measure _ ih => exact ih hs
  | call _ ih => exact ih hs

/-- A run that is not interrupted is one of those in which others may act. -/
lemma Settles.leads_run (hp : p.Settles e (.ok a)) (hs : Visited e capacity s) :
    Leads (Visited e capacity) p (.done a) := by
  have hsteps : Steps (p, s) (.done a, (p.run s).2) :=
    steps_of_run (Prod.ext (hp.run hs).1 rfl)
  suffices h : ∀ x : Procedure α × Shared, Steps (p, s) x →
      Leads (Visited e capacity) p x.1 ∧ Visited e capacity x.2 from (h _ hsteps).1
  intro x hx
  induction hx with
  | refl => exact ⟨.refl, hs⟩
  | tail _ hstep ih =>
    obtain ⟨hl, hv⟩ := ih
    subst hstep
    exact ⟨.step hl hv, ((hp.of_leads hl).step hv).2⟩

end Wayfinding.Procedure
