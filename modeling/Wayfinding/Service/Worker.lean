import Wayfinding.Answer.Handler
import Wayfinding.Broker.Basic

/-!
# Workers

A worker announces that it is ready, and then sends one message for each message that it is given:
the reply to a request, or else the announcement again.

Main definitions: `Worker.answer` and `Worker.serve`.
-/

namespace Wayfinding

/-- A worker with what it answers requests with. -/
structure Worker where
  id : WorkerId
  handler : Handler

namespace Worker

/-- The message by which a worker announces that it is ready. -/
def greeting (w : Worker) : Multipart := Broker.readyMessage w.id

/-- The message that a worker sends for one that it was given, and the worker afterwards. -/
def answer (w : Worker) (m : Multipart) : Procedure (Multipart × Worker) :=
  match Envelope.parse m with
  | .ok e => do
    let (payload, handler) ← w.handler.handlePayload e.payload
    return (w.id.frame :: Envelope.frames ⟨e.client, payload⟩, { w with handler := handler })
  | .error _ => pure (w.greeting, w)

/-- The messages that a worker sends for those that it is given. -/
def answers (w : Worker) : List Multipart → Procedure (List Multipart)
  | [] => pure []
  | m :: ms => do
    let (reply, w) ← w.answer m
    return reply :: (← answers w ms)

/-- All messages of a worker. -/
def serve (w : Worker) (ms : List Multipart) : Procedure (List Multipart) := do
  return w.greeting :: (← w.answers ms)

/-- The messages that a worker sends until its outbox is closed, which takes the given count. The
worker stops with the first message that it cannot send. -/
def serveUntil (w : Worker) (count : Nat) (ms : List Multipart) : Procedure (List Multipart) :=
  match count with
  | 0 => pure []
  | count + 1 => w.serve (ms.take count)

end Worker

end Wayfinding
