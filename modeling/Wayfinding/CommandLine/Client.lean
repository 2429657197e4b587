import Wayfinding.CommandLine.Option
import Wayfinding.Message.Request
import Wayfinding.Mode
import Wayfinding.Number.Integer

/-!
# The client's command line

The client sends one request to a service and prints the response.

Main definitions:
* `Query`: what can be asked on the command line.
* `Query.request`: the request that asks it.
* `ClientCommand.parse`: the query in a list of arguments, and where to send it.
-/

namespace Wayfinding

open CommandLine (Given)

/-- How to travel. -/
structure TravelOptions where
  mode : String := "walking"
  /-- Meters per second. -/
  speed : Option Binary64 := none

namespace TravelOptions

/-- The preferences with which a request travels. -/
def preferences (t : TravelOptions) (instructions : Bool) : Preferences :=
  let base : Preferences := { originMode := t.mode, enableInstructions := instructions }
  match t.speed with
  | none => base
  | some v =>
    match Mode.ofName? t.mode with
    | some .bike => { base with bikeSpeed := v }
    | some .bss => { base with bssSpeed := some v }
    | some .car => { base with carSpeed := v }
    | some .taxi => { base with taxiSpeed := v }
    | some .walking | none => { base with walkingSpeed := v }

end TravelOptions

/-- What can be asked on the command line. -/
inductive Query where
  /-- How long it takes from every origin to every destination. -/
  | matrix (origins destinations : List String) (maxDuration : Int32) (travel : TravelOptions)
  /-- The way from one place to another. -/
  | directPath (origin destination : String) (datetime : UInt64) (arrival instructions : Bool)
    (travel : TravelOptions)

namespace Query

/-- A place without a way to it. -/
def place (name : String) : PlaceContext := ⟨name, 0⟩

/-- The request that asks a query. -/
def request : Query → Request
  | matrix origins destinations maxDuration travel =>
    { requestedApi := Api.matrix.number
      matrix := some
        { origins := origins.map place
          destinations := destinations.map place
          mode := travel.mode
          maxDuration := maxDuration
          preferences := some (travel.preferences false) } }
  | directPath origin destination datetime arrival instructions travel =>
    { requestedApi := Api.directPath.number
      directPath := some
        { origin := some (place origin)
          destination := some (place destination)
          datetime := datetime
          clockwise := !arrival
          preferences := some (travel.preferences instructions) } }

/-! ### Arguments -/

/-- A number in meters per second. -/
def speed? (s : String) : Option Binary64 := Binary64.parse? s.toList

/-- A duration in seconds. -/
def duration? (s : String) : Option Int32 :=
  (Integer.signed? Int32.minValue.toInt Int32.maxValue.toInt s.toList).map Int32.ofInt

/-- An instant in seconds. -/
def instant? (s : String) : Option UInt64 :=
  (Integer.natural? UInt64.size s.toList).map UInt64.ofNat

/-- The options of every query. -/
def travelOptions : List CommandOption :=
  [{ name := "mode" }, { name := "speed", accepts := some fun s => (speed? s).isSome }]

/-- The options of a matrix. -/
def matrixOptions : List CommandOption :=
  [{ name := "origin", repeatable := true, required := true },
    { name := "destination", repeatable := true, required := true },
    { name := "max-duration", accepts := some fun s => (duration? s).isSome }] ++ travelOptions

/-- The options of a direct path. -/
def directPathOptions : List CommandOption :=
  [{ name := "origin", required := true }, { name := "destination", required := true },
    { name := "datetime", accepts := some fun s => (instant? s).isSome },
    { name := "arrival", accepts := none }, { name := "instructions", accepts := none }] ++
    travelOptions

/-- The first value of an option, or a default. -/
def valueOr (given : Given) (name default : String) : String :=
  (CommandLine.values given name).headD default

/-- How to travel by the given options. -/
def travelOf (given : Given) : TravelOptions where
  mode := valueOr given "mode" "walking"
  speed := (CommandLine.values given "speed").head? >>= speed?

/-- The matrix of the given options. -/
def matrixOf (given : Given) : Query :=
  matrix (CommandLine.values given "origin") (CommandLine.values given "destination")
    ((duration? (valueOr given "max-duration" "")).getD 3600) (travelOf given)

/-- The direct path of the given options. -/
def directPathOf (given : Given) : Query :=
  directPath (valueOr given "origin" "") (valueOr given "destination" "")
    ((instant? (valueOr given "datetime" "")).getD 0) (CommandLine.has given "arrival")
    (CommandLine.has given "instructions") (travelOf given)

end Query

/-- A query and where to send it. -/
structure ClientCommand where
  address : String
  query : Query

namespace ClientCommand

/-- The options before the command. -/
def options : List CommandOption := [{ name := "address", letter := some 'a' }]

/-- The commands. -/
def commands : List String := ["matrix", "direct-path", "help"]

/-- What asking for help on commands leads to. -/
def help : List String → CommandStop
  | [] => .help
  | [name] => if name ∈ commands then .help else .misuse
  | _ => .misuse

/-- The query of a command. -/
def queryOf (command : String) (args : List String) : Except CommandStop Query :=
  match command with
  | "matrix" => (CommandLine.readOptions Query.matrixOptions args).map Query.matrixOf
  | "direct-path" => (CommandLine.readOptions Query.directPathOptions args).map Query.directPathOf
  | _ => .error (help args)

/-- Reads the arguments of the client. -/
def parse (args : List String) : Except CommandStop ClientCommand := do
  let r ← CommandLine.read options commands [] args
  match r.command with
  | none => .error .misuse
  | some (command, args) =>
    return ⟨Query.valueOr r.given "address" "127.0.0.1:6000", ← queryOf command args⟩

end ClientCommand

end Wayfinding
