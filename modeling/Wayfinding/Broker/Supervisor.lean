import Wayfinding.Broker.Backoff
import Wayfinding.Broker.Exchange

/-!
# The supervisor

The supervisor starts the broker's loop again after every interruption. Between an interruption and
the new start the broker pauses, for longer each time that the loop did not run for long; a shutdown
ends the pause.

Main definitions:
* `Pacing`: how long the pauses are.
* `Supervision.settle`: the supervised broker up to the point where it waits, pauses or has ended.
* `Supervision.pass`: the supervised broker after some time.
-/

namespace Wayfinding

/-- How the supervisor spaces the starts of the loop. -/
structure Pacing where
  /-- Milliseconds of the first pause. -/
  base : Nat := 10
  /-- Milliseconds of the longest pause without its lengthening. -/
  maximum : Nat := 1000
  /-- What is drawn at random for an attempt, below a bound. -/
  draw : Nat → Nat → Nat := fun _ _ => 0

/-- Milliseconds of the pause before an attempt. -/
def Pacing.pause (p : Pacing) (attempt : Nat) : Except Crash Nat :=
  Backoff.pause (p.draw attempt) attempt p.base p.maximum

/-- What the supervisor is doing. -/
inductive SupervisorState where
  | running
  /-- The broker pauses for so long before its loop is started again. -/
  | pausing (milliseconds : Nat)
  /-- The service was shut down; the broker is kept. -/
  | stopped
  /-- The broker failed and is gone. -/
  | failed (error : BrokerError)
  /-- The supervisor crashed, and the broker is gone. -/
  | crashed (crash : Crash)
deriving DecidableEq, Repr

/-- A supervised exchange. -/
structure Supervision where
  exchange : Exchange
  state : SupervisorState := .running
  /-- Whether a pause is over before anything else happens. -/
  resumes : Bool := true
  pacing : Pacing := {}
  /-- How often the loop has been interrupted since it last ran for long. -/
  attempt : Nat := 0
  /-- Milliseconds since the loop was started. -/
  elapsed : Nat := 0

namespace Supervision

/-- Closes the broker's side of all channels. -/
def abandon (e : Exchange) : Exchange :=
  { e with
    frontend := e.frontend.closeReceiver
    backend := e.backend.closeReceiver
    inboxes := e.inboxes.map fun i => (i.1, i.2.closeSender) }

/-- Pauses before the loop is started again. The attempts are counted anew when the loop has run for
longer than the longest pause. -/
def pause (s : Supervision) : Supervision :=
  let attempt := (if s.pacing.maximum < s.elapsed then 0 else s.attempt) + 1
  match s.pacing.pause attempt with
  | .ok milliseconds => { s with attempt := attempt, state := .pausing milliseconds }
  | .error crash => { s with exchange := abandon s.exchange, state := .crashed crash }

/-- Runs the loop once, up to its end. -/
def runLoop (s : Supervision) : Supervision :=
  match s.exchange.poll with
  | (e, .waiting) => { s with exchange := e }
  | (e, .stopped) => { s with exchange := e, state := .stopped }
  | (e, .failed .interrupted) => { s with exchange := e }.pause
  | (e, .failed error) => { s with exchange := abandon e, state := .failed error }

/-- Ends a pause: with the shutdown, if it was announced, or by itself. -/
def resume (s : Supervision) : Supervision :=
  match s.state with
  | .pausing _ =>
    if s.exchange.stopping then
      { s with exchange := { s.exchange with stopping := false }, state := .stopped }
    else if s.resumes then { s with state := .running, elapsed := 0 }
    else s
  | _ => s

/-- Runs the loop if it is to run. -/
def advance (s : Supervision) : Supervision :=
  match s.state with
  | .running => s.runLoop
  | _ => s

/-- Runs until nothing more happens; only one interruption can be waiting, so the loop is started
at most twice. -/
def settle (s : Supervision) : Supervision := s.resume.advance.resume.advance

/-- Lets time pass: the loop runs for longer, or a pause comes to its end. -/
def pass (milliseconds : Nat) (s : Supervision) : Supervision :=
  match s.state with
  | .running => { s with elapsed := s.elapsed + milliseconds }
  | .pausing rest =>
    if rest ≤ milliseconds then { s with state := .running, elapsed := milliseconds - rest }
    else { s with state := .pausing (rest - milliseconds) }
  | _ => s

end Supervision

end Wayfinding
