import Wayfinding.Proofs.Journey.Conclusion
import Wayfinding.Proofs.Message.Arrival

/-!
# Forms of answers

Whatever bytes a handler is given and whatever its engine does, its answer has one of five forms,
and nothing of another form in it: nothing at all, a matrix, a journey, no solution, or a failure.
A failure is reported as an internal one when the engine breaks off, and in one more case: the
totals of the journey that was found overflow.

Main definitions:
* `AnswerForm`, `Response.HasForm`: the forms, and what a response of each form holds.
* `Handler.Verdict`: which form the outcome of a request gives.
* `Handler.Hired`: the handlers that a new one comes to be, answering payloads.

Main statement: `Handler.Hired.one_form`.
-/

namespace Wayfinding

open Procedure (Leads)

/-- The forms of an answer: nothing, a matrix, a journey, no path, or a failure. -/
inductive AnswerForm where
  | blank
  | matrix
  | journey
  | noPath
  | failed (id : FailureId)
deriving DecidableEq

/-- Failures are told apart by their numbers. -/
lemma FailureId.number_injective {id id' : FailureId} (h : id.number = id'.number) : id = id' := by
  rw [← ofNumber_number id, h, ofNumber_number]

/-- No refusal is reported as a request that cannot be read. -/
lemma Refusal.failureId_ne_invalidRequest (reason : Refusal) :
    reason.failureId ≠ .invalidRequest := by
  cases reason <;> exact FailureId.noConfusion

/-! ### Responses of a form -/

namespace Response

/-- The response holds what its form asks for, and everything else is left out. -/
inductive HasForm : Response → AnswerForm → Prop where
  | blank :
    HasForm {} .blank
  | matrix (m : Matrix) :
    HasForm { matrix := some m } .matrix
  | journey (j : Journey) :
    HasForm { kind := ResponseKind.itineraryFound.number, journeys := [j] } .journey
  | noPath :
    HasForm { kind := ResponseKind.noSolution.number } .noPath
  | failed (id : FailureId) (message : String) :
    HasForm
      { kind := ResponseKind.noSolution.number, failure := some ⟨id.number, message⟩ }
      (.failed id)

variable {response : Response} {form form' : AnswerForm}

/-- An answer has one form. -/
lemma HasForm.unique (h : response.HasForm form) (h' : response.HasForm form') : form' = form := by
  cases h with
  | blank =>
    cases h'
    rfl
  | matrix m =>
    cases h'
    rfl
  | journey j =>
    cases h'
    rfl
  | noPath =>
    cases h'
    rfl
  | failed id message =>
    generalize hr : Response.mk _ _ _ _ = r at h'
    cases h' with
    | failed id' message' =>
      simp only [mk.injEq, Option.some.injEq, Failure.mk.injEq] at hr
      rw [FailureId.number_injective hr.2.1.1]
    | _ => cases hr

/-- On its way to the client a response keeps its form. -/
lemma HasForm.arrived (h : response.HasForm form) : response.arrived.HasForm form := by
  cases h with
  | blank => exact .blank
  | matrix m => exact .matrix m
  | journey j => exact .journey j.arrived
  | noPath => exact .noPath
  | failed id message => exact .failed id message

/-- An answer with a failure holds nothing else. -/
lemma HasForm.alone {failure : Failure} (h : response.HasForm form)
    (hf : response.failure = some failure) :
    response.kind = ResponseKind.noSolution.number ∧ response.journeys = [] ∧
      response.matrix = none := by
  cases h with
  | failed id message => exact ⟨rfl, rfl, rfl⟩
  | _ => cases hf

end Response

/-! ### Verdicts on requests -/

namespace Request

variable {r : Request}

/-- The request asks for one of the two operations. -/
def Asks (r : Request) : Prop := r.requestedApi = 1 ∨ r.requestedApi = 2

/-- A matrix is asked for with the number one. -/
lemma api_eq_matrix (h : r.api = .matrix) : r.requestedApi = 1 := by
  simp only [api, Api.ofNumber, Option.getD_eq_iff] at h
  obtain h | ⟨-, h⟩ := h
  · have hn := List.find?_some h
    exact (of_decide_eq_true hn).symm
  · cases h

/-- A path is asked for with the number two. -/
lemma api_eq_directPath (h : r.api = .directPath) : r.requestedApi = 2 := by
  simp only [api, Api.ofNumber, Option.getD_eq_iff] at h
  obtain h | ⟨-, h⟩ := h
  · have hn := List.find?_some h
    exact (of_decide_eq_true hn).symm
  · cases h

/-- Any other number asks for nothing. -/
lemma not_asks_of_api (h : r.api = .unknown) : ¬r.Asks := by
  rintro (hr | hr)
  · rw [api, hr] at h
    cases h
  · rw [api, hr] at h
    cases h

end Request

namespace Handler

variable {h h' : Handler} {r : Request} {outcome : Except Halt Response} {form : AnswerForm}
  {P : Shared → Prop} {payload reply : List UInt8}

/-- What the outcome of a request may be, and the form of the answer that reports it. -/
inductive Verdict (h : Handler) (r : Request) : Except Halt Response → AnswerForm → Prop where
  /-- The request asks for an operation that there is not. -/
  | blank :
    ¬r.Asks →
    Verdict h r (.ok {}) .blank
  | matrix (m : Matrix) :
    r.requestedApi = 1 →
    Verdict h r (.ok { matrix := some m }) .matrix
  | journey (j : Journey) :
    r.requestedApi = 2 →
    Verdict h r (.ok { kind := ResponseKind.itineraryFound.number, journeys := [j] }) .journey
  | noPath :
    r.requestedApi = 2 →
    Verdict h r (.ok .noSolution) .noPath
  | refused (reason : Refusal) :
    r.Asks →
    Verdict h r (.error (.refused reason)) (.failed reason.failureId)
  | crashed (crash : Crash) :
    r.Asks →
    h.engine.Crashes crash →
    Verdict h r (.error (.crashed crash)) (.failed .internal)
  /-- The engine finds a path, and the totals of the journey along it overflow. -/
  | overflown {p q origin destination path ss crash} :
    r.requestedApi = 2 →
    r.directPath = some p →
    p.query h.routing = .ok q →
    h.engine.search origin destination q.costing = .ok (some path) →
    q.journey.plan path q.costing = .ok ss →
    q.journey.Overflows ss crash →
    Verdict h r (.error (.crashed crash)) (.failed .internal)

/-- What is reported has the form of the verdict. -/
lemma Verdict.hasForm (hv : h.Verdict r outcome form) : (report outcome).HasForm form := by
  cases hv with
  | blank => exact .blank
  | matrix m => exact .matrix m
  | journey j => exact .journey j
  | noPath => exact .noPath
  | refused reason => exact .failed reason.failureId reason.message
  | crashed crash => exact .failed .internal crash.message
  | overflown _ _ _ _ _ _ => exact .failed .internal _

/-- A request that was read is not reported as one that cannot be. -/
lemma Verdict.ne_invalidRequest (hv : h.Verdict r outcome form) :
    form ≠ .failed .invalidRequest := by
  intro heq
  cases hv with
  | refused reason => exact reason.failureId_ne_invalidRequest (AnswerForm.failed.inj heq)
  | _ => cases heq

/-- The answer is empty if nothing was asked for. -/
lemma Verdict.blank_iff (hv : h.Verdict r outcome form) : form = .blank ↔ ¬r.Asks := by
  cases hv with
  | blank hr => exact iff_of_true rfl hr
  | matrix m hr => exact iff_of_false nofun (not_not_intro (.inl hr))
  | journey j hr => exact iff_of_false nofun (not_not_intro (.inr hr))
  | noPath hr => exact iff_of_false nofun (not_not_intro (.inr hr))
  | refused reason hr => exact iff_of_false nofun (not_not_intro hr)
  | crashed crash hr => exact iff_of_false nofun (not_not_intro hr)
  | overflown hr => exact iff_of_false nofun (not_not_intro (.inr hr))

/-- However a request for a matrix ends, there is a verdict on it. -/
lemma verdict_of_accounts {o : Except Halt (Mode × Response)} (hr : r.requestedApi = 1)
    (ho : h.engine.Accounts (fun x : Mode × Response => ∃ m, x.2 = { matrix := some m }) o) :
    ∃ form, h.Verdict r (o.map (·.2)) form := by
  cases o with
  | ok x =>
    obtain ⟨mode, response⟩ := x
    obtain ⟨m, rfl⟩ := ho
    exact ⟨_, .matrix m hr⟩
  | error halt =>
    cases halt with
    | refused reason => exact ⟨_, .refused reason (.inl hr)⟩
    | crashed crash => exact ⟨_, .crashed crash (.inl hr) ho⟩

/-- However a request for a journey ends, there is a verdict on it. -/
lemma verdict_of_concludes {p : DirectPathRequest} {o : Except Halt (Mode × Response)}
    (hr : r.requestedApi = 2) (hp : r.directPath = some p)
    (ho : p.Concludes h.engine h.routing o) : ∃ form, h.Verdict r (o.map (·.2)) form := by
  cases ho with
  | unread _ => exact ⟨_, .refused _ (.inr hr)⟩
  | read hq hconcludes =>
    cases hconcludes with
    | @unlocated halt hmissed =>
      cases halt with
      | refused reason => exact ⟨_, .refused reason (.inr hr)⟩
      | crashed crash =>
        obtain hcrash | hcrash := hmissed
        · exact ⟨_, .crashed crash (.inr hr) (.project hcrash)⟩
        · exact ⟨_, .crashed crash (.inr hr) (.project hcrash)⟩
    | lost _ hcrash => exact ⟨_, .crashed _ (.inr hr) (.search hcrash)⟩
    | searched _ hfound hyields =>
      cases hyields with
      | noPath _ => exact ⟨_, .noPath hr⟩
      | @journey _ _ _ j => exact ⟨_, .journey j hr⟩
      | overflown _ _ _ hplan hover => exact ⟨_, .overflown hr hp hq hfound hplan hover⟩
      | inconsistent _ _ => exact ⟨_, .refused _ (.inr hr)⟩
      | outside _ _ _ _ _ => exact ⟨_, .refused _ (.inr hr)⟩

/-- A request is dispatched to the operation that it asks for, and what this ends with is measured,
which does not matter for the verdict. -/
lemma dispatch_endsIn (h : Handler) (r : Request) :
    (h.dispatch r).EndsIn fun outcome => ∃ form, h.Verdict r outcome form := by
  unfold dispatch
  split
  · next hapi => exact .done ⟨_, .blank (Request.not_asks_of_api hapi)⟩
  · next hapi =>
    have hr := Request.api_eq_matrix hapi
    split
    · exact .halt ⟨_, .refused _ (.inl hr)⟩
    · next m _ =>
      exact Procedure.EndsIn.bind (m.answer_accountable h.routing)
        (fun _ hx => .measure (.done (verdict_of_accounts hr hx)))
        fun _ hx => verdict_of_accounts hr hx
  · next hapi =>
    have hr := Request.api_eq_directPath hapi
    cases hp : r.directPath with
    | none => exact .halt ⟨_, .refused _ (.inr hr)⟩
    | some p =>
      have hends := h.endsIn_dispatch_directPath hapi hp
      simp only [dispatch, hapi, hp] at hends
      refine hends.imp fun o houtcome => ?_
      obtain ⟨outcome, hconcludes, rfl⟩ := houtcome
      exact verdict_of_concludes hr hp hconcludes

/-! ### Answers to payloads -/

/-- The handlers that a new one comes to be, as it answers one payload after another. -/
inductive Hired (engine : Engine) (routing : RoutingSettings)
    (elevation : Option ElevationSource) : Handler → Prop where
  | new : Hired engine routing elevation ⟨engine, routing, elevation, {}⟩
  | answered {h h' : Handler} {payload reply : List UInt8} :
    Hired engine routing elevation h →
    (h.handlePayload payload).Leads (fun _ => True) (.done (reply, h')) →
    Hired engine routing elevation h'

/-- What is known about an answer. -/
structure Answered (P : Shared → Prop) (h : Handler) (payload : List UInt8) (response : Response)
    (form : AnswerForm) : Prop where
  /-- The answer has this form and no other. -/
  form_iff : ∀ form', response.arrived.HasForm form' ↔ form' = form
  /-- An answer with a failure holds nothing else. -/
  alone : ∀ failure, response.arrived.failure = some failure →
    response.arrived.kind = ResponseKind.noSolution.number ∧ response.arrived.journeys = [] ∧
      response.arrived.matrix = none
  /-- Only bytes that are no request are reported as such. -/
  unreadable_iff : form = .failed .invalidRequest ↔ Request.decode? payload = none
  /-- Only a request for no operation gets a blank answer. -/
  blank_iff : form = .blank ↔ ∃ r, Request.decode? payload = some r ∧ ¬r.Asks
  /-- Otherwise the form is the one that the outcome of the request gives. -/
  verdict : ∀ r, Request.decode? payload = some r →
    ∃ outcome, (h.dispatch r).attempt.Leads P (.done outcome) ∧ response = report outcome ∧
      h.Verdict r outcome form

/-- Bytes that are no request are answered as such. -/
lemma answered_of_none (hp : Request.decode? payload = none) :
    h.Answered P payload unreadable (.failed .invalidRequest) := by
  have hform : unreadable.HasForm (.failed .invalidRequest) := .failed _ _
  exact {
    form_iff := fun form' => ⟨hform.arrived.unique, fun heq => heq ▸ hform.arrived⟩
    alone := fun failure => hform.arrived.alone
    unreadable_iff := iff_of_true rfl hp
    blank_iff := iff_of_false nofun (by simp [hp])
    verdict := by simp [hp] }

/-- A request is answered with what its dispatch comes to. -/
lemma answered_of_some (hp : Request.decode? payload = some r)
    (hl : (h.dispatch r).attempt.Leads P (.done outcome)) :
    ∃ form, h.Answered P payload (report outcome) form := by
  obtain ⟨form, hv⟩ := (h.dispatch_endsIn r).of_attempt hl
  have hform := hv.hasForm.arrived
  refine ⟨form, ?_⟩
  exact {
    form_iff := fun form' => ⟨hform.unique, fun heq => heq ▸ hform⟩
    alone := fun failure => hform.alone
    unreadable_iff := iff_of_false hv.ne_invalidRequest (by simp [hp])
    blank_iff := by simp [hp, hv.blank_iff]
    verdict := by
      rintro _ hr
      cases hp.symm.trans hr
      exact ⟨outcome, hl, rfl, hv⟩ }

/-- An answer brings the handler back to where it was. -/
lemma answered_of_leads (hidle : h.scratch = {})
    (hl : (h.handlePayload payload).Leads P (.done (reply, h'))) :
    h' = h ∧ ∃ response form, reply = response.encode ∧ h.Answered P payload response form := by
  obtain ⟨⟨response, h₁⟩, hr, hd⟩ := hl.of_measure.of_bind_done
  obtain ⟨rfl, rfl⟩ : reply = response.encode ∧ h' = h₁ := by simpa using hd.of_measure.of_done
  unfold respond at hr
  split at hr
  · next r hp =>
    obtain ⟨outcome, houtcome, hd⟩ := hr.of_bind_done
    obtain ⟨rfl, rfl⟩ : response = report outcome ∧ h' = (h.start r).clear := by
      simpa using hd.of_done
    -- what is noted about the request does not matter for its outcome
    have houtcome : (h.dispatch r).attempt.Leads P (.done outcome) := houtcome
    obtain ⟨form, ha⟩ := answered_of_some hp houtcome
    refine ⟨?_, _, form, rfl, ha⟩
    change { h with scratch := {} } = h
    rw [← hidle]
  · next hp =>
    obtain ⟨rfl, rfl⟩ : response = unreadable ∧ h' = h := by simpa using hr.of_done
    exact ⟨rfl, _, _, rfl, answered_of_none hp⟩

namespace Hired

variable {engine : Engine} {routing : RoutingSettings} {elevation : Option ElevationSource}

/-- Between two payloads a handler knows nothing about a request. -/
lemma idle (hh : Hired engine routing elevation h) : h.scratch = {} := by
  induction hh with
  | new => rfl
  | answered _ hl ih =>
    obtain ⟨rfl, -⟩ := answered_of_leads ih hl
    exact ih

end Hired

end Handler

end Wayfinding
