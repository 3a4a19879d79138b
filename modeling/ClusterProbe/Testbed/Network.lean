import ClusterProbe.Session
import ClusterProbe.Testbed.Server

/-!
# A network in the process

Connections to servers that live in the same process, and the dialer that opens them. An endpoint
that nobody registered refuses. Time is a number of milliseconds that moves only when someone moves
it.
-/
namespace ClusterProbe

/-- A client's thread of work. -/
abbrev ThreadId := Nat

/-- Who sits at the far end of a connection. -/
inductive FarEnd where
  /-- A server with its handler, and the number of empty frames in front of each response. -/
  | server (service keepalives : Nat) (state : ServerState)
  /-- A peer that sends what it has to send, whatever it receives. -/
  | script (unsent : Bytes) (thenEnds : Bool) (received : Bytes)
  /-- Nobody; what was sent before can still be read. -/
  | gone (sent : Bytes)

/-- What a dial to an endpoint leads to. -/
structure Registration where
  endpoint : Endpoint
  /-- Tells registrations of one endpoint apart. -/
  number : Nat
  farEnd : FarEnd
  capacity : Nat

structure Connection where
  endpoint : Endpoint
  registration : Nat
  toServer : Pipe
  toClient : Pipe
  farEnd : FarEnd
  /-- The frame that the client is reading. -/
  reader : FrameReader := .start
  /-- The thread that would take the connection with it. -/
  owner : Option ThreadId := none

namespace Connection

def closePipes (k : Connection) : Connection :=
  { k with toServer := k.toServer.close, toClient := k.toClient.close }

def ofRegistration (r : Registration) (owner : ThreadId) : Connection :=
  let k : Connection :=
    { endpoint := r.endpoint, registration := r.number, farEnd := r.farEnd, owner := some owner
      toServer := { capacity := r.capacity }, toClient := { capacity := r.capacity } }
  match r.farEnd with
  | .gone sent => { k with toClient.buffer := sent }.closePipes
  | _ => k

def isActive (k : Connection) : Bool :=
  match k.farEnd with
  | .server _ _ state => state.isRunning
  | _ => false

def wakeAt? (now : Nat) (k : Connection) : Option Nat :=
  match k.farEnd with
  | .server _ _ state => state.wakeAt? now
  | _ => none

/-- A scripted peer takes what has arrived, then sends on. -/
def scriptStep (unsent : Bytes) (thenEnds : Bool) (received : Bytes) (k : Connection) :
    Option Connection :=
  if !k.toServer.buffer.isEmpty then
    some { k with
      toServer.buffer := []
      farEnd := .script unsent thenEnds (received ++ k.toServer.buffer) }
  else if unsent.isEmpty then
    if thenEnds ∧ !k.toClient.closed then some { k with toClient := k.toClient.close } else none
  else
    match k.toClient.write unsent with
    | none => none
    | some (.error _, _) => some { k with farEnd := .script [] thenEnds received }
    | some (.ok n, toClient) =>
      some { k with toClient, farEnd := .script (unsent.drop n) thenEnds received }

end Connection

/-- A handler with the requests that it has seen. -/
structure Service where
  handler : Handler
  seen : List RequestFrame := []

structure Network where
  now : Nat := 0
  registry : List Registration := []
  /-- For each registration, by its number: on how many connections its server is running. -/
  running : List Nat := []
  /-- Why an endpoint that is not registered cannot be dialed. -/
  refusal : Endpoint → IoError := fun _ => ⟨.connectionRefused, some "connection refused"⟩
  /-- The endpoints of all dial attempts, latest first. -/
  dialed : List Endpoint := []
  services : List Service := []
  connections : List Connection := []
  /-- The requests that servers received, latest first. -/
  requests : List (Endpoint × RequestFrame) := []
  /-- What was logged, latest first. -/
  events : List LogEvent := []

namespace Network

def log (event : LogEvent) (n : Network) : Network :=
  { n with events := event :: n.events }

def find? (n : Network) (e : Endpoint) : Option Registration :=
  n.registry.find? (·.endpoint = e)

/-- Makes an endpoint reachable, unless it is already. -/
def registerFarEnd (e : Endpoint) (farEnd : FarEnd) (capacity : Nat) (n : Network) : Network :=
  { n with
    registry := n.registry ++ [{ endpoint := e, number := n.running.length, farEnd, capacity }]
    running := n.running ++ [0] }

/-- Makes an endpoint answer by a handler. One that is registered gets the handler for new
connections and stays what it is otherwise. -/
def register (e : Endpoint) (handler : Handler) (n : Network) : Network :=
  let service := n.services.length
  let n := { n with services := n.services ++ [Service.mk handler []] }
  match n.find? e with
  | none => n.registerFarEnd e (.server service 0 .start) 65536
  | some _ =>
    let take := fun r : Registration =>
      match r.farEnd with
      | .server _ keepalives state =>
        if r.endpoint = e then { r with farEnd := .server service keepalives state } else r
      | _ => r
    { n with registry := n.registry.map take }

/-- Puts empty frames in front of every response on new connections to an endpoint. -/
def setKeepalives (e : Endpoint) (count : Nat) (n : Network) : Network :=
  let put := fun r : Registration =>
    match r.farEnd with
    | .server service _ state =>
      if r.endpoint = e then { r with farEnd := .server service count state } else r
    | _ => r
  { n with registry := n.registry.map put }

/-- Makes an endpoint refuse new connections. Open ones go on. -/
def unregister (e : Endpoint) (n : Network) : Network :=
  { n with registry := n.registry.filter (·.endpoint ≠ e) }

/-- Every attempt is counted, whether it succeeds or not. -/
def dial (owner : ThreadId) (e : Endpoint) (n : Network) :
    Except SessionError ConnectionId × Network :=
  let n := { n with dialed := e :: n.dialed }
  match n.find? e with
  | none => (.error (.dial e (n.refusal e)), n)
  | some r =>
    let c := n.connections.length
    let k := Connection.ofRegistration r owner
    let running := if k.isActive then n.running.modify r.number (· + 1) else n.running
    (.ok c, { n with connections := n.connections ++ [k], running })

def dialCount (n : Network) (e : Endpoint) : Nat :=
  n.dialed.count e

def totalDials (n : Network) : Nat :=
  n.dialed.length

/-- What the counter of the present registration of an endpoint shows; nothing without one. -/
def active (n : Network) (e : Endpoint) : Nat :=
  ((n.find? e).bind fun r => n.running[r.number]?).getD 0

def setConnection (c : ConnectionId) (k : Connection) (n : Network) : Network :=
  { n with connections := n.connections.set c k }

def hangUp (c : ConnectionId) (n : Network) : Network :=
  { n with connections := n.connections.modify c Connection.closePipes }

/-- No thread takes the connections of `owner` with it any more. -/
def keepAll (owner : ThreadId) (n : Network) : Network :=
  let keep := fun k : Connection => if k.owner = some owner then { k with owner := none } else k
  { n with connections := n.connections.map keep }

def dropAll (owner : ThreadId) (n : Network) : Network :=
  let drop := fun k : Connection =>
    if k.owner = some owner then { k with owner := none }.closePipes else k
  { n with connections := n.connections.map drop }

def keep (c : ConnectionId) (n : Network) : Network :=
  { n with connections := n.connections.modify c fun k => { k with owner := none } }

/-- The end of a server, reported if it is not a good one. -/
def endEvents (e : Endpoint) : ServerState → List LogEvent
  | .ended (.error error) =>
    [{ level := .debug, target := "yb_session::testing", message := "fake server connection ended"
       fields := [("endpoint", e.text), ("error", error.message)] }]
  | _ => []

def consult (c : ConnectionId) (k : Connection) (service keepalives : Nat)
    (request : RequestFrame) (n : Network) : Network :=
  let s := n.services[service]?.getD ⟨fun _ _ => .hangup, []⟩
  let reply := s.handler s.seen request
  let state := .answering request.header.callId reply n.now
  { n with
    services := n.services.set service { s with seen := s.seen ++ [request] }
    requests := (k.endpoint, request) :: n.requests
    connections := n.connections.set c { k with farEnd := .server service keepalives state } }

/-- What the far end of a connection does next; nothing, while it has to wait. -/
def step (c : ConnectionId) (n : Network) : Option Network := do
  let k ← n.connections[c]?
  match k.farEnd with
  | .gone _ => none
  | .script unsent thenEnds received =>
    return n.setConnection c (← k.scriptStep unsent thenEnds received)
  | .server service keepalives (.called request) =>
    return n.consult c k service keepalives request
  | .server service keepalives state =>
    let line ← ServerState.step keepalives n.now
      { state, toServer := k.toServer, toClient := k.toClient }
    let running :=
      if line.state.isRunning then n.running else n.running.modify k.registration (· - 1)
    let k := { k with
      toServer := line.toServer
      toClient := line.toClient
      farEnd := .server service keepalives line.state }
    let k := if line.state.isRunning then k else k.closePipes
    let events := line.events ++ endEvents k.endpoint line.state
    return events.foldl (fun n e => n.log e) { n.setConnection c k with running }

/-- Every far end gets its turn; whether any of them did something. -/
def stepAll (n : Network) : Network × Bool :=
  let turn := fun (n, moved) c =>
    match step c n with
    | some n => (n, true)
    | none => (n, moved)
  (List.range n.connections.length).foldl turn (n, false)

def nextWake? (n : Network) : Option Nat :=
  (n.connections.filterMap (Connection.wakeAt? n.now)).min?

/-- Lets the servers work on their own until the time `until`, in at most `fuel` rounds. -/
def idleUntil (target : Nat) : (fuel : Nat) → Network → Network
  | 0, n => n
  | fuel + 1, n =>
    match n.stepAll with
    | (n, true) => idleUntil target fuel n
    | (n, false) =>
      match n.nextWake? with
      | some t =>
        if t ≤ target then idleUntil target fuel { n with now := t } else { n with now := target }
      | none => { n with now := target }

/-- Lets so many milliseconds pass, in which only servers do something. -/
def idle (millis : Nat) (n : Network) : Network :=
  idleUntil (n.now + millis) Testbed.patience n

/-- Waits, for at most `tries` times five milliseconds, until an endpoint has no connections. -/
def waitIdle (e : Endpoint) : (tries : Nat) → Network → Network
  | 0, n => n
  | tries + 1, n => if n.active e = 0 then n else waitIdle e tries (n.idle 5)

/-- The endpoints that answer, as the dialer shows itself. -/
def dialerText (n : Network) : String :=
  let names := (n.registry.map fun r => r.endpoint.text).mergeSort
  "MemoryDialer \x7b endpoints: [" ++ ", ".intercalate (names.map Text.quoted) ++ "] \x7d"

/-- What the scripted peer of a connection has received, which it then forgets. -/
def takeReceived (c : ConnectionId) (n : Network) : Bytes × Network :=
  match n.connections[c]? with
  | some k =>
    match k.farEnd with
    | .script unsent thenEnds received =>
      (received, n.setConnection c { k with farEnd := .script unsent thenEnds [] })
    | _ => ([], n)
  | none => ([], n)

/-- The requests that servers received, in order of arrival, which are then forgotten. -/
def takeRequests (n : Network) : List (Endpoint × RequestFrame) × Network :=
  (n.requests.reverse, { n with requests := [] })

end Network
end ClusterProbe
