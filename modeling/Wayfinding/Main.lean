import Std.Async.DNS
import Std.Async.Signal
import Std.Async.TCP
import Std.Sync.Mutex
import Wayfinding.CommandLine.Client
import Wayfinding.CommandLine.Server
import Wayfinding.Service.Launch
import Wayfinding.Settings.Load

/-!
# The program

With `serve` as its first argument the program runs the service until a signal stops it; with any
other arguments it sends one request to a running service and prints the response. Heights are left
out of its journeys, because it fetches no URLs.
-/

namespace Wayfinding.Program

open Std.Async

/-- The exit status of a program that failed. -/
def failure : UInt32 := 1

/-- Reports a failure. -/
def fail (message : String) : IO UInt32 := do
  IO.eprintln ("Error: " ++ message)
  return failure

/-- Reports that a command does nothing. -/
def halt (stop : CommandStop) : IO UInt32 := do
  match stop with
  | .help => IO.println "usage: serve [--config FILE] | [--address ADDRESS] matrix | direct-path"
  | .misuse => IO.eprintln "error: unusable arguments; --help shows the commands"
  return stop.status.toUInt32

/-! ### Addresses -/

/-- A socket address as the system takes it. -/
def netAddress : SocketAddress → Std.Net.SocketAddress
  | .v4 a port =>
    let byte (shift : UInt32) := (a.number >>> shift).toUInt8
    .v4 ⟨⟨#v[byte 24, byte 16, byte 8, byte 0]⟩, port⟩
  | .v6 a _ port => .v6 ⟨⟨⟨a.groups.toArray, a.length_groups⟩⟩, port⟩

/-- The socket address of a host that is named, with a port. -/
def resolve (address : String) : Async Std.Net.SocketAddress := do
  match SocketAddress.parse? address with
  | some a => return netAddress a
  | none =>
    let port := (address.toList.reverse.takeWhile (· != ':')).reverse
    let host := address.toList.take (address.length - port.length - 1)
    let found : Array Std.Net.IPAddr ← DNS.getAddrInfo (String.ofList host) (String.ofList port)
    match found.toList.head?, Integer.natural? UInt16.size port with
    | some (Std.Net.IPAddr.v4 a), some n => return .v4 ⟨a, .ofNat n⟩
    | some (Std.Net.IPAddr.v6 a), some n => return .v6 ⟨a, .ofNat n⟩
    | _, _ => throw (IO.userError ("no such address: " ++ address))

/-! ### The client -/

/-- How many bytes are read at once. -/
def chunk : UInt64 := 65536

/-- Reads from a socket until a message is complete. -/
partial def receive (socket : TCP.Socket.Client) (read : List UInt8) :
    Async (Option Multipart) := do
  match Codec.decode Service.clientFrameLimit read with
  | .message m _ => return some m
  | .refused _ _ => return none
  | .partly _ =>
    match ← socket.recv? chunk with
    | some bytes => receive socket (read ++ bytes.toList)
    | none => return none

/-- Sends a request and waits for the response. -/
def exchange (address : String) (r : Request) : Async (Option Response) := do
  let socket ← TCP.Socket.Client.mk
  socket.connect (← resolve address)
  socket.send ⟨(Codec.encodeFrames (ClientMessage.frames r.encode)).toArray⟩
  let payload := (← receive socket []).bind fun m => (ClientMessage.parse m).toOption
  return payload.bind Response.decode?

/-- Sends one request and prints the response. -/
def ask (args : List String) : IO UInt32 := do
  match ClientCommand.parse args with
  | .error stop => halt stop
  | .ok c =>
    match ← (exchange c.address c.query.request).block with
    | none => fail "no response from the service"
    | some r =>
      IO.println (responseSchema.json r).pretty
      return 0

/-! ### The server -/

/-- The service and the sockets of its peers. -/
structure Running where
  service : Service
  sockets : List (Nat × TCP.Socket.Client) := []

/-- Sends a peer what the service has written to it, and closes the socket of one that has been
left. -/
def flush (running : Running) (peer : Nat × TCP.Socket.Client) : IO Running := do
  let (bytes, service) := running.service.readRest peer.1
  unless bytes.isEmpty do
    try (peer.2.send ⟨bytes.toArray⟩).block catch _ => pure ()
  if (service.peer? peer.1).any (·.state = .closed) then
    try peer.2.shutdown.block catch _ => pure ()
    return { service := service.forget peer.1
             sockets := running.sockets.filter (·.1 != peer.1) }
  else return { running with service }

/-- Lets something happen to the service, and sends what it has written. -/
def update (state : Std.Mutex Running) (event : Running → Running) : IO Unit :=
  state.atomically do
    let running := event (← get)
    let shared := { running.service.shared with calls := [], journal := [] }
    let running := { running with service := { running.service with shared } }
    set (← running.sockets.foldlM (fun r peer => (flush r peer : IO Running)) running)

/-- Lets something happen to the service alone. -/
def updateService (state : Std.Mutex Running) (event : Service → Service) : IO Unit :=
  update state fun r => { r with service := event r.service }

/-- Passes on what a peer writes. -/
partial def listen (state : Std.Mutex Running) (key : Nat) (socket : TCP.Socket.Client) :
    Async Unit := do
  let bytes ← try socket.recv? chunk catch _ => pure none
  match bytes with
  | some bytes =>
    updateService state (·.write key bytes.toList)
    listen state key socket
  | none => updateService state (·.finish key)

/-- Accepts peers, which are numbered from `key` on. -/
partial def accept (state : Std.Mutex Running) (server : TCP.Socket.Server) (key : Nat) :
    Async Unit := do
  let socket ← server.accept
  update state fun r =>
    { service := r.service.connect key, sockets := r.sockets ++ [(key, socket)] }
  background (listen state key socket)
  accept state server (key + 1)

/-- Waits for a signal of the system. -/
def awaitSignal (signal : Std.Async.Signal) : Async Unit := do
  let waiter ← Signal.Waiter.mk signal false
  let task ← waiter.wait
  discard (Async.ofAsyncTask task)

/-- Rebuilds the broker's loop with each hang-up. -/
partial def awaitHangUps (state : Std.Mutex Running) : Async Unit := do
  awaitSignal .sighup
  updateService state (·.signal .hangUp)
  awaitHangUps state

/-- Runs a service until a signal stops it. -/
def run (address : Std.Net.SocketAddress) (service : Service) : Async Unit := do
  let server ← TCP.Socket.Server.mk
  server.bind address
  server.listen 128
  let state ← Std.Mutex.new { service : Running }
  background (accept state server 0)
  background (awaitHangUps state)
  Async.race (awaitSignal .sigint) (awaitSignal .sigterm)
  updateService state (·.signal .terminate)

/-- The file of settings at a path. -/
def settingsFile (path : String) : IO Settings.File := do
  try return ⟨path, .ok (← IO.FS.readFile path)⟩
  catch e => return ⟨path, .error (toString e)⟩

/-- The variables of the environment. -/
def environment : IO Environment := do
  let names := ["BIND_ADDRESS", "METRICS_BINDING", "ELEVATION_SERVICE_URL", "LOG_LEVEL",
    "NB_THREADS", "WALKING_CACHE_SIZE", "BIKE_CACHE_SIZE", "CAR_CACHE_SIZE",
    "BSS_RENT_DURATION", "BSS_RETURN_DURATION"].map (Environment.nameStart ++ ·)
  let values ← names.mapM fun name => return (name, ← IO.getEnv name)
  return fun name => (values.lookup name).join

/-- Runs the service with the settings of a file and of the environment. -/
def serve (args : List String) : IO UInt32 := do
  match ServerCommand.parse args with
  | .error stop => halt stop
  | .ok c =>
    let file ← c.settings.mapM settingsFile
    match Settings.load file (← environment) with
    | .error e => fail e.message
    | .ok s =>
      match Service.launch s s.straightLine (fun _ => none),
          SocketAddress.parse? s.listener.bindAddress with
      | .ok service, some address =>
        (run (netAddress address) service).block
        return 0
      | .error fault, _ => fail fault.message
      | .ok _, none => fail LaunchFault.badAddress.message

end Wayfinding.Program

/-- Runs the program. -/
def main (args : List String) : IO UInt32 := do
  try
    match args with
    | "serve" :: args => Wayfinding.Program.serve args
    | _ => Wayfinding.Program.ask args
  catch e => Wayfinding.Program.fail (toString e)
