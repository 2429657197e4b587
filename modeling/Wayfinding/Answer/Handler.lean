import Wayfinding.Journey.Answer
import Wayfinding.Matrix.Answer

/-!
# Handlers

A handler answers the requests of one worker. Whatever happens to a request, its client gets a
response: refusals and crashes are reported as failures.

Main definitions:
* `Handler.dispatch`: the answer of the operation that a request asks for.
* `Handler.handle`: the response to a request.
* `Handler.handlePayload`: the response to any bytes, as bytes.
-/

namespace Wayfinding

/-- What a worker knows about the request in progress. -/
structure Scratch where
  api : Option Api := none
deriving DecidableEq, Repr, Inhabited

/-- What a worker answers requests with. -/
structure Handler where
  engine : Engine
  routing : RoutingSettings
  elevation : Option ElevationSource := none
  scratch : Scratch := {}

namespace Handler

/-- The answer of the operation that a request asks for; a request for none gets a blank
response. -/
def dispatch (h : Handler) (r : Request) : Procedure Response :=
  match r.api with
  | .unknown => pure {}
  | .matrix =>
    match r.matrix with
    | none => .refuse (.missingField "sn_routing_matrix")
    | some m => do
      let (mode, response) ← m.answer h.engine h.routing
      .measure (.matrixAnswered mode) (pure response)
  | .directPath =>
    match r.directPath with
    | none => .refuse (.missingField "direct_path")
    | some p => do
      let (mode, response) ← p.answer h.engine h.routing h.elevation
      .measure (.pathAnswered mode) (pure response)

/-- The response that a client gets for the outcome of its request. -/
def report : Except Halt Response → Response
  | .ok response => response
  | .error (.refused reason) => reason.response
  | .error (.crashed crash) => .refusal .internal crash.message

/-- Notes the request that is being handled. -/
def start (h : Handler) (r : Request) : Handler := { h with scratch := { api := some r.api } }

/-- Forgets the request that was handled. -/
def clear (h : Handler) : Handler := { h with scratch := {} }

/-- The response to a request, and the handler afterwards. -/
def handle (h : Handler) (r : Request) : Procedure (Response × Handler) := do
  let busy := h.start r
  let outcome ← (busy.dispatch r).attempt
  return (report outcome, busy.clear)

/-- The response to bytes that are no request. -/
def unreadable : Response := .refusal .invalidRequest "Invalid protobuf request"

/-- The response to a payload, and the handler afterwards. -/
def respond (h : Handler) (payload : List UInt8) : Procedure (Response × Handler) :=
  match Request.decode? payload with
  | some r => h.handle r
  | none => pure (unreadable, h)

/-- The response to a payload as bytes, and the handler afterwards; meanwhile one more request is
counted as being handled. -/
def handlePayload (h : Handler) (payload : List UInt8) : Procedure (List UInt8 × Handler) :=
  .measure .requestStarted do
    let (response, h) ← h.respond payload
    .measure .requestFinished (pure (response.encode, h))

end Handler

end Wayfinding
