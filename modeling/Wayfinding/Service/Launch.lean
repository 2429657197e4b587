import Wayfinding.Address.Socket
import Wayfinding.Journey.HeightService
import Wayfinding.Road.StraightLine
import Wayfinding.Service.Basic

/-!
# Launching the service

The settings decide with what the service is started; signals tell it what to do then.

Main definitions:
* `Settings.straightLine`: the engine that the settings describe.
* `Service.launch`: the service of some settings.
* `Service.signal`: what a signal does.
-/

namespace Wayfinding

namespace Settings

/-- The engine that the settings describe. -/
def straightLine (s : Settings) : Engine :=
  StraightLine.engine ⟨.haversine, s.engine.coverage, s.routing⟩

/-- What each worker answers requests with. -/
def handler (s : Settings) (engine : Engine) (fetch : Url → Option HttpReply) : Handler :=
  { engine := engine, routing := s.routing
    elevation := HeightService.source? fetch s.elevation.serviceUrl }

/-- How the broker's loop is started again, with what is drawn at random for an attempt. -/
def pacing (s : Settings) (draw : Nat → Nat → Nat) : Pacing :=
  ⟨s.workers.rebuildBaseDelayMs, s.workers.rebuildMaxDelayMs, draw⟩

end Settings

/-- Why a service does not start. -/
inductive LaunchFault where
  | badAddress
deriving DecidableEq, Repr

namespace LaunchFault

/-- The fault in words. -/
def message : LaunchFault → String
  | badAddress => "Failed to bind: invalid socket address syntax"

end LaunchFault

/-- A signal to the running service. -/
inductive Signal where
  | hangUp
  | interrupt
  | terminate
deriving DecidableEq, Repr

namespace Service

/-- The service of some settings, with an engine, with what fetching a URL gives and with what is
drawn at random. -/
def launch (settings : Settings) (engine : Engine) (fetch : Url → Option HttpReply)
    (draw : Nat → Nat → Nat := fun _ _ => 0) : Except LaunchFault Service :=
  match SocketAddress.parse? settings.listener.bindAddress with
  | none => .error .badAddress
  | some _ =>
    .ok (start (List.replicate settings.workers.count (settings.handler engine fetch))
      (.ofCapacities settings.cache.capacity) (settings.pacing draw) settings.workers.maxPending
      settings.listener.maxConnections settings.listener.maxFrameBytes)

/-- A hang-up rebuilds the broker's loop, and the other signals stop the service. -/
def signal (s : Service) : Signal → Service
  | .hangUp => s.interrupt
  | .interrupt | .terminate => s.stop

end Service

end Wayfinding
