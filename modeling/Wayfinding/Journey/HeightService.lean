import Wayfinding.Journey.Heights
import Wayfinding.Json.Value
import Wayfinding.Url.Basic

/-!
# The elevation service

Heights along a shape are asked for over HTTP. Fetching a URL is left to the caller, so that a
service is a function of what the network answers.

Main definitions:
* `HeightService.parse`: the service below a base URL.
* `HeightService.requestLine`: the first line that is sent for a shape.
* `HeightService.source`: the profiles that a service gives.
-/

namespace Wayfinding

/-- What a server answers. -/
structure HttpReply where
  status : Nat
  body : String
deriving DecidableEq

namespace HttpReply

/-- Whether a request succeeded. -/
def isSuccess (r : HttpReply) : Bool := 200 ≤ r.status && r.status < 300

/-- The text of a reply: nothing where the status says so, and otherwise the body without a mark of
its byte order. -/
def text (r : HttpReply) : String :=
  if r.status = 204 then ""
  else match r.body.toList with
    | '\ufeff' :: rest => String.ofList rest
    | _ => r.body

end HttpReply

/-- A service that is asked for heights. -/
structure HeightService where
  endpoint : Url

namespace HeightService

/-- The service below a base URL. -/
def parse (base : String) : Except UrlFault HeightService := do
  let url ← Url.parse base
  return ⟨← url.appendSegment "height"⟩

/-- A degree in steps of a millionth. -/
def rounded (x : Binary64) : Binary64 := (x * .ofNat 1000000).round / .ofNat 1000000

/-- A point as the service reads it. -/
def point (c : Coordinate) : JsonValue :=
  .record [("lat", .real (rounded c.lat)), ("lon", .real (rounded c.lon))]

/-- What the service is asked. -/
def question (shape : List Coordinate) : JsonValue :=
  .record [("range", .bool true), ("shape", .list (shape.map point))]

/-- The URL that is fetched for a shape. -/
def url (s : HeightService) (shape : List Coordinate) : Url :=
  s.endpoint.appendQuery "json" (question shape).compact

/-- The first line that is sent for a shape. -/
def requestLine (s : HeightService) (shape : List Coordinate) : String :=
  "GET " ++ (s.url shape).target ++ " HTTP/1.1"

/-- The profile in a reply. -/
def profile (reply : Option HttpReply) : Except ElevationFailure (List ElevationSample) :=
  match reply with
  | none => .error .unreachable
  | some r => if r.isSuccess then Heights.profile r.text else .error (.status r.status)

/-- The profiles that a service gives, by what fetching a URL gives. -/
def source (s : HeightService) (fetch : Url → Option HttpReply) : ElevationSource :=
  fun shape => profile (fetch (s.url shape))

/-- The source of profiles for a base URL; without a base, or with one that cannot be used, there
is none. -/
def source? (fetch : Url → Option HttpReply) (base : Option String) : Option ElevationSource :=
  base.bind fun text => ((parse text).toOption).map (·.source fetch)

end HeightService

end Wayfinding
