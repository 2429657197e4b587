import Mathlib.Logic.Relation
import Wayfinding.Service.Worker

/-!
# Interleaved procedures

A worker goes through its procedure while others change the shared state between any two of its
steps. `Procedure.Leads P p p'` says that some steps, each on a shared state that satisfies `P`,
lead from `p` to `p'`.

Main definitions: `Procedure.Leads`, `Procedure.OnlyCalls`, `Procedure.Ends`, `Handler.Answers`.
Main lemmas: `Leads.of_bind`, `Worker.answer_done` (what a worker sends is addressed to the client
of the request), `Worker.answer_ends` (a worker has an answer to whatever it is given).
-/

namespace Wayfinding

/-- One result after another is that of the second, once the first is there. -/
lemma exists_of_bind_eq_ok {ε α β : Type} {x : Except ε α} {f : α → Except ε β} {b : β}
    (h : x >>= f = .ok b) : ∃ a, x = .ok a ∧ f a = .ok b := by
  cases x with
  | error r => cases h
  | ok a => exact ⟨a, rfl, h⟩

/-- A value that was mapped was there before. -/
lemma exists_of_map_eq_ok {ε α β : Type} {x : Except ε α} {f : α → β} {b : β}
    (h : x.map f = .ok b) : ∃ a, x = .ok a ∧ f a = b := by
  cases x with
  | error r => cases h
  | ok a => exact ⟨a, rfl, Except.ok.inj h⟩

/-- A failure is the same whatever a value would have been mapped to. -/
lemma eq_error_of_map_eq_error {ε α β : Type} {x : Except ε α} {f : α → β} {r : ε}
    (h : x.map f = .error r) : x = .error r := by
  cases x with
  | error r' => exact congrArg Except.error (Except.error.inj h)
  | ok a => cases h

/-- Results that halt in the same way crash in the same way. -/
lemma mapError_crashed_inj {α : Type} {x y : Except Crash α} :
    x.mapError Halt.crashed = y.mapError Halt.crashed ↔ x = y := by
  refine ⟨fun h => ?_, fun h => congrArg _ h⟩
  cases x with
  | error crash =>
    cases y with
    | error crash' =>
      cases h
      rfl
    | ok b => cases h
  | ok a =>
    cases y with
    | error crash => cases h
    | ok b =>
      cases h
      rfl

/-- A value is mapped whatever a crash becomes. -/
lemma map_mapError_crashed {α β : Type} {x : Except Crash α} {f : α → β} :
    (x.mapError Halt.crashed).map f = (x.map f).mapError Halt.crashed := by
  cases x <;> rfl

namespace Procedure

variable {α β : Type} {P : Shared → Prop}

/-- Some steps, each on a shared state with a property, lead from one procedure to another. -/
inductive Leads (P : Shared → Prop) (p : Procedure α) : Procedure α → Prop where
  | refl : Leads P p p
  | step {p' s} :
    Leads P p p' →
    P s →
    Leads P p (p'.step s).1

/-- One procedure after another begins with the steps of the first. -/
lemma step_bind {p : Procedure α} (h : ∀ a, p ≠ .done a) (f : α → Procedure β) (s : Shared) :
    ((p.bind f).step s).1 = (p.step s).1.bind f := by
  cases p with
  | done a => exact absurd rfl (h a)
  | _ => rfl

/-- A procedure that has ended with a value leads to nothing else. -/
lemma Leads.of_done {a : α} {p : Procedure α} (h : Leads P (.done a) p) : p = .done a := by
  induction h with
  | refl => rfl
  | step _ _ ih =>
    rw [ih]
    rfl

/-- What has broken off goes no further. -/
lemma Leads.of_halt {r : Halt} {p : Procedure α} (h : Leads P (.halt r) p) : p = .halt r := by
  induction h with
  | refl => rfl
  | step _ _ ih =>
    rw [ih]
    rfl

/-- What ends well was not refused. -/
lemma Leads.of_ofExcept {x : Except Refusal α} {a : α} (h : Leads P (ofExcept x) (.done a)) :
    x = .ok a := by
  cases x with
  | ok b =>
    cases h.of_done
    rfl
  | error r => cases h.of_halt

/-- One procedure after another is still in the first or, once that has ended, in the second. -/
lemma Leads.of_bind {p : Procedure α} {f : α → Procedure β} {r : Procedure β}
    (h : Leads P (p.bind f) r) :
    (∃ p', Leads P p p' ∧ r = p'.bind f) ∨ ∃ a, Leads P p (.done a) ∧ Leads P (f a) r := by
  induction h with
  | refl => exact .inl ⟨p, .refl, rfl⟩
  | @step r s _ hs ih =>
    obtain ⟨p', hp, rfl⟩ | ⟨a, hp, hr⟩ := ih
    · by_cases hd : ∃ a, p' = .done a
      · obtain ⟨a, rfl⟩ := hd
        exact .inr ⟨a, hp, .step .refl hs⟩
      · rw [step_bind (not_exists.1 hd)]
        exact .inl ⟨_, .step hp hs, rfl⟩
    · exact .inr ⟨a, hp, .step hr hs⟩

/-- One procedure after another ends with the value of the second. -/
lemma Leads.of_bind_done {p : Procedure α} {f : α → Procedure β} {b : β}
    (h : Leads P (p.bind f) (.done b)) :
    ∃ a, Leads P p (.done a) ∧ Leads P (f a) (.done b) := by
  obtain ⟨p', hp, hb⟩ | ha := h.of_bind
  · cases p' with
    | done a => exact ⟨a, hp, hb ▸ .refl⟩
    | _ => cases hb
  · exact ha

/-- The steps of a procedure are steps of what goes on after it. -/
lemma Leads.bind {p p' : Procedure α} (h : Leads P p p') (f : α → Procedure β) :
    Leads P (p.bind f) (p'.bind f) := by
  induction h with
  | refl => exact .refl
  | @step p' s _ hs ih =>
    by_cases hd : ∃ a, p' = .done a
    · obtain ⟨a, rfl⟩ := hd
      exact ih
    · rw [← step_bind (not_exists.1 hd)]
      exact .step ih hs

/-- A measurement does not matter for the end of a procedure. -/
lemma Leads.of_measure {m : Measurement} {p : Procedure α} {a : α}
    (h : Leads P (.measure m p) (.done a)) : Leads P p (.done a) := by
  obtain ⟨⟨⟩, -, hp⟩ := of_bind_done (p := .measure m (.done ())) (f := fun _ => p) h
  exact hp

/-- After a call, the rest is gone through. -/
lemma Leads.of_call {c : Call} {p : Procedure α} {a : α} (h : Leads P (.call c p) (.done a)) :
    Leads P p (.done a) := by
  obtain ⟨⟨⟩, -, hp⟩ := of_bind_done (p := .call c (.done ())) (f := fun _ => p) h
  exact hp

/-- What may crash has ended with a value. -/
lemma Leads.of_risk {x : Except Crash α} {a : α} (h : Leads P (risk x) (.done a)) : x = .ok a := by
  cases x with
  | ok b =>
    cases h.of_done
    rfl
  | error crash => cases h.of_halt

/-- A call that ends well gives what its collaborator gives. -/
lemma Leads.of_consult {c : Call} {x : Except Crash α} {a : α}
    (h : Leads P (consult c x) (.done a)) : x = .ok a :=
  h.of_call.of_risk

/-! ### Runs of procedures -/

/-- One procedure after another runs as the first, then the second. -/
lemma run_bind (p : Procedure α) (f : α → Procedure β) (s : Shared) :
    (p.bind f).run s =
      match p.run s with
      | (.ok a, s') => (f a).run s'
      | (.error r, s') => (.error r, s') := by
  induction p generalizing s with
  | done a => rfl
  | halt r => rfl
  | lookup g key next ih => exact ih _ _
  | store g key location next ih => exact ih _
  | inspect next ih => exact ih _ _
  | measure m next ih => exact ih _
  | call c next ih => exact ih _

/-- What goes on after a value does so in the state that is left. -/
lemma run_bind_of_ok {p : Procedure α} {f : α → Procedure β} {a : α} {s s' : Shared}
    (h : p.run s = (.ok a, s')) : (p.bind f).run s = (f a).run s' := by
  rw [run_bind, h]

/-- What breaks off does not go on. -/
lemma run_bind_of_error {p : Procedure α} {f : α → Procedure β} {r : Halt} {s s' : Shared}
    (h : p.run s = (.error r, s')) : (p.bind f).run s = (.error r, s') := by
  rw [run_bind, h]

/-- One procedure after another, when the second only gives a value, ends with this value. -/
lemma run_bind_done (p : Procedure α) (f : α → β) (s : Shared) :
    (p.bind fun a => .done (f a)).run s = ((p.run s).1.map f, (p.run s).2) := by
  rw [run_bind]
  obtain ⟨result, s'⟩ := p.run s
  cases result with
  | ok a => rfl
  | error r => rfl

/-- When the second procedure only gives a value or crashes, nothing happens after the first. -/
lemma run_bind_risk (p : Procedure α) (f : α → Except Crash β) (s : Shared) :
    (p.bind fun a => risk (f a)).run s =
      ((p.run s).1.bind fun a => (f a).mapError .crashed, (p.run s).2) := by
  rw [run_bind]
  obtain ⟨result, s'⟩ := p.run s
  cases result with
  | ok a =>
    dsimp only [Except.bind]
    cases f a with
    | ok b => rfl
    | error crash => rfl
  | error r => rfl

/-- It does not matter which of three procedures are put together first. -/
lemma bind_assoc {γ : Type} (p : Procedure α) (f : α → Procedure β) (g : β → Procedure γ) :
    (p.bind f).bind g = p.bind fun a => (f a).bind g := by
  induction p with
  | done a => rfl
  | halt r => rfl
  | lookup graph key next ih => exact congrArg (lookup graph key) (funext ih)
  | store graph key location next ih => exact congrArg (store graph key location) ih
  | inspect next ih => exact congrArg inspect (funext ih)
  | measure m next ih => exact congrArg (measure m) ih
  | call c next ih => exact congrArg (Procedure.call c) ih

/-- A procedure with its halt as a value runs as the procedure itself. -/
lemma run_attempt (p : Procedure α) (s : Shared) :
    p.attempt.run s = (.ok (p.run s).1, (p.run s).2) := by
  induction p generalizing s with
  | done a => rfl
  | halt r => rfl
  | lookup g key next ih => exact ih _ _
  | store g key location next ih => exact ih _
  | inspect next ih => exact ih _ _
  | measure m next ih => exact ih _
  | call c next ih => exact ih _

/-- Some steps of a procedure, without any steps of others in between. -/
abbrev Steps : Procedure α × Shared → Procedure α × Shared → Prop :=
  Relation.ReflTransGen fun x y => y = x.1.step x.2

/-- A procedure that runs to a value gets there step by step. -/
lemma steps_of_run {p : Procedure α} {a : α} {s s' : Shared} (h : p.run s = (.ok a, s')) :
    Steps (p, s) (.done a, s') := by
  induction p generalizing s with
  | done b =>
    cases h
    exact .refl
  | halt r => cases h
  | lookup g key next ih => exact .head rfl (ih _ h)
  | store g key location next ih => exact .head rfl (ih h)
  | inspect next ih => exact .head rfl (ih _ h)
  | measure m next ih => exact .head rfl (ih h)
  | call c next ih => exact .head rfl (ih h)

/-- What is run was gone through. -/
lemma leads_of_run {p : Procedure α} {a : α} {s s' : Shared} (h : p.run s = (.ok a, s')) :
    Leads (fun _ => True) p (.done a) := by
  suffices hall : ∀ x : Procedure α × Shared, Steps (p, s) x → Leads (fun _ => True) p x.1 from
    hall _ (steps_of_run h)
  intro x hx
  induction hx with
  | refl => exact .refl
  | tail _ hstep ih =>
    subst hstep
    exact .step ih trivial

/-- What is known about the value of a run holds for a value that the procedure leads to. -/
lemma exists_leads_of_run {p : Procedure α} {f : α → β} {b : β} {s : Shared}
    (h : (p.run s).1.map f = .ok b) : ∃ a, Leads (fun _ => True) p (.done a) ∧ f a = b := by
  cases ha : (p.run s).1 with
  | error r =>
    rw [ha] at h
    cases h
  | ok a =>
    rw [ha] at h
    exact ⟨a, leads_of_run (Prod.ext ha rfl), Except.ok.inj h⟩

/-! ### Procedures that only call -/

/-- A procedure that does nothing but call collaborators. -/
inductive OnlyCalls : Procedure α → Prop where
  | done a : OnlyCalls (.done a)
  | halt r : OnlyCalls (.halt r)
  | call c {next} :
    OnlyCalls next →
    OnlyCalls (.call c next)

/-- One procedure that only calls after another only calls. -/
lemma OnlyCalls.bind {p : Procedure α} {f : α → Procedure β} (hp : p.OnlyCalls)
    (hf : ∀ a, (f a).OnlyCalls) : (p.bind f).OnlyCalls := by
  induction hp with
  | done a => exact hf a
  | halt r => exact .halt r
  | call c _ ih => exact OnlyCalls.call c ih

/-- What may crash calls nobody. -/
lemma onlyCalls_risk (x : Except Crash α) : (risk x).OnlyCalls := by
  cases x with
  | ok a => exact .done a
  | error crash => exact .halt _

/-- A call goes on to whatever comes after it. -/
lemma Leads.call {c : Call} {p p' : Procedure α} (h : Leads (fun _ => True) p p') :
    Leads (fun _ => True) (.call c p) p' := by
  induction h with
  | refl => exact .step (s := { caches := .ofCapacities fun _ => 0 }) .refl trivial
  | step _ hs ih => exact .step ih hs

/-! ### Procedures that end with a value -/

/-- A procedure that ends with a value, whatever the shared state is. -/
def Ends (p : Procedure α) : Prop := ∀ s, ∃ a s', p.run s = (.ok a, s')

/-- A value has ended. -/
lemma Ends.done (a : α) : (Procedure.done a).Ends := fun s => ⟨a, s, rfl⟩

/-- An attempt ends in any case. -/
lemma Ends.attempt (p : Procedure α) : p.attempt.Ends := fun s => ⟨_, _, run_attempt p s⟩

/-- A measurement does not keep a procedure from its end. -/
lemma Ends.measure {p : Procedure α} (h : p.Ends) (m : Measurement) :
    (Procedure.measure m p).Ends :=
  fun _ => h _

/-- Procedures that end may follow each other. -/
lemma Ends.bind {p : Procedure α} {f : α → Procedure β} (hp : p.Ends) (hf : ∀ a, (f a).Ends) :
    (p.bind f).Ends := by
  intro s
  obtain ⟨a, s', ha⟩ := hp s
  obtain ⟨b, s'', hb⟩ := hf a s'
  exact ⟨b, s'', by rw [run_bind, ha]; exact hb⟩

end Procedure

/-! ### Handlers -/

namespace Handler

variable {P : Shared → Prop} {h h' : Handler} {payload reply : List UInt8}

/-- A handler may give a reply to a payload when its steps find shared states with a property. -/
def Answers (P : Shared → Prop) (h : Handler) (payload reply : List UInt8) : Prop :=
  ∃ h', (h.handlePayload payload).Leads P (.done (reply, h'))

/-- A handler that has answered differs at most in what it knew about a request. -/
lemma clear_of_leads (hl : (h.handlePayload payload).Leads P (.done (reply, h'))) :
    h'.clear = h.clear := by
  obtain ⟨⟨response, h₁⟩, hr, hd⟩ := hl.of_measure.of_bind_done
  obtain ⟨-, rfl⟩ : reply = response.encode ∧ h' = h₁ := by simpa using hd.of_measure.of_done
  unfold respond at hr
  split at hr
  · obtain ⟨outcome, -, hd⟩ := hr.of_bind_done
    obtain ⟨-, rfl⟩ : response = report outcome ∧ h' = _ := by simpa using hd.of_done
    rfl
  · obtain ⟨-, rfl⟩ : response = unreadable ∧ h' = h := by simpa using hr.of_done
    rfl

/-- What a handler knew about an earlier request does not matter for its replies. -/
lemma answers_of_clear (hc : h'.clear = h.clear) (ha : h.Answers P payload reply) :
    h'.Answers P payload reply := by
  obtain ⟨engine, routing, elevation, scratch⟩ := h
  obtain ⟨engine', routing', elevation', scratch'⟩ := h'
  obtain ⟨rfl, rfl, rfl⟩ : engine' = engine ∧ routing' = routing ∧ elevation' = elevation := by
    simpa [clear] using hc
  obtain ⟨h₁, hl⟩ := ha
  cases hd : Request.decode? payload with
  | some r =>
    -- the scratch is overwritten before anything else happens
    refine ⟨h₁, ?_⟩
    simp only [handlePayload, respond, hd] at hl ⊢
    exact hl
  | none =>
    have hb := hl.bind fun x => .done (x.1, Handler.mk engine' routing' elevation' scratch')
    simp only [handlePayload, respond, hd] at hb
    refine ⟨Handler.mk engine' routing' elevation' scratch', ?_⟩
    simp only [handlePayload, respond, hd]
    exact hb

/-- A handler has a response to any bytes. -/
lemma respond_ends (h : Handler) (payload : List UInt8) : (h.respond payload).Ends := by
  unfold respond
  split
  · exact .bind (.attempt _) fun _ => .done _
  · exact .done _

end Handler

/-! ### Workers -/

/-- The message that a worker sends for a request is addressed to the client of the request, and its
payload is a reply of the worker's handler. -/
lemma Worker.answer_done {P : Shared → Prop} {w w' : Worker} {e : Envelope} {m : Multipart}
    (he : e.client ≠ []) (h : (w.answer e.frames).Leads P (.done (m, w'))) :
    ∃ reply, m = w.id.frame :: Envelope.frames ⟨e.client, reply⟩ ∧
      w.handler.Answers P e.payload reply ∧
      w'.id = w.id ∧ w'.handler.clear = w.handler.clear := by
  simp only [answer, Envelope.parse_frames he] at h
  obtain ⟨⟨reply, h'⟩, hr, hd⟩ := h.of_bind_done
  obtain ⟨rfl, rfl⟩ : m = _ ∧ w' = _ := by simpa using hd.of_done
  exact ⟨reply, rfl, ⟨h', hr⟩, rfl, Handler.clear_of_leads hr⟩

/-- A worker has a message to send for whatever it is given. -/
lemma Worker.answer_ends (w : Worker) (m : Multipart) : (w.answer m).Ends := by
  unfold answer
  split
  · refine .bind ?_ fun _ => .done _
    exact .measure (.bind (w.handler.respond_ends _) fun _ => .measure (.done _) _) _
  · exact .done _

/-- A worker stays who it is. -/
lemma Worker.id_of_run {w w' : Worker} {m r : Multipart} {s s' : Shared}
    (h : (w.answer m).run s = (.ok (r, w'), s')) : w'.id = w.id := by
  unfold answer at h
  split at h
  · change (Procedure.bind _ _).run s = _ at h
    rw [Procedure.run_bind] at h
    split at h
    · cases h
      rfl
    · cases h
  · cases h
    rfl

end Wayfinding
