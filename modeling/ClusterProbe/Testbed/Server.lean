import ClusterProbe.Log
import ClusterProbe.Session.FrameReader
import ClusterProbe.Testbed.Pipe

/-!
# Servers in the process

A minimal server for one connection: it checks the greeting, then reads requests one by one and
answers each as its handler says. It ends when its client goes away, when a reply says so, or when
it cannot make sense of what it reads.
-/
namespace ClusterProbe

inductive Reply where
  | message (body : Bytes)
  | empty
  | error (status : ErrorStatus)
  /-- A payload that is sent as it is. -/
  | raw (payload : Bytes)
  | hangup
  /-- A reply that comes after so many milliseconds. -/
  | delayed (millis : Nat) (reply : Reply)
  deriving DecidableEq, Repr

/-- What a server replies to a request, given the requests that came before it. -/
abbrev Handler := (earlier : List RequestFrame) → RequestFrame → Reply

namespace Reply

/-- The payload that answers call `callId` with a reply that is not delayed. -/
def payload? (callId : Int32) : Reply → Option Bytes
  | message body => some (ResponseFrame.success callId body).encode
  | empty => some (ResponseFrame.void callId).encode
  | error status => some (ResponseFrame.failure callId status).encode
  | raw payload => some payload
  | hangup | delayed _ _ => none

end Reply

namespace Handler

/-- One reply for each request, then the connection is dropped. -/
def inOrder (replies : List (RequestFrame → Reply)) : Handler := fun earlier request =>
  match replies[earlier.length]? with
  | some reply => reply request
  | none => .hangup

/-- The method that a request names, as `service.method`. -/
def methodText (request : RequestFrame) : String :=
  request.header.remoteMethod.elim "." fun m => s!"{m.serviceName}.{m.methodName}"

/-- A list of replies for each method. The last one of a list repeats, and a method without a list
is refused. -/
def byMethod (table : List (String × List (RequestFrame → Reply))) : Handler :=
  fun earlier request =>
    let calls := earlier.countP fun r => methodText r == methodText request
    match table.lookup (methodText request) with
    | none => .error ⟨"no such method", some RpcErrorCode.errorNoSuchMethod.number⟩
    | some replies =>
      match replies[calls]?.or replies.getLast? with
      | some reply => reply request
      | none => .empty

end Handler

namespace Reply

def echo (request : RequestFrame) : Reply :=
  .message request.body

def inspect (request : RequestFrame) : Reply :=
  let method := request.header.remoteMethod.getD ⟨"", ""⟩
  let timeout := match request.header.timeoutMillis with
    | some n => s!"Some({n.toNat})"
    | none => "None"
  let told : RemoteMethod :=
    { serviceName := s!"{method.serviceName}#{request.header.callId.toInt}"
      methodName := s!"{method.methodName}#{timeout}" }
  .message (Protobuf.Message.encode told)

end Reply

inductive ServerState where
  | greeting (got : Bytes)
  | reading (reader : FrameReader)
  /-- A request has been read and waits for its reply. -/
  | called (request : RequestFrame)
  /-- A reply is due at the time `due`. -/
  | answering (callId : Int32) (reply : Reply) (due : Nat)
  | sending (rest : Bytes)
  | ended (result : Except IoError Unit)

namespace ServerState

def start : ServerState := greeting []

def isRunning : ServerState → Bool
  | ended _ => false
  | _ => true

/-- The time that the server waits for, if it waits for one that is still to come. -/
def wakeAt? (now : Nat) : ServerState → Option Nat
  | answering _ _ due => if now < due then some due else none
  | _ => none

def invalidData (text : String) : ServerState :=
  ended (.error ⟨.invalidData, some text⟩)

/-- The server's state together with both directions of its connection. -/
structure Line where
  state : ServerState
  toServer : Pipe
  toClient : Pipe
  events : List LogEvent := []

def greetingEvent : LogEvent where
  level := .trace
  target := "yb_session::handshake"
  message := "received connection preamble"

def greet (got : Bytes) (line : Line) : Option Line := do
  let (piece, toServer) ← line.toServer.read (Frame.hello.length - got.length)
  let line := { line with toServer }
  let got := got ++ piece
  if piece.isEmpty then return { line with state := ended (.error .earlyEof) }
  else if got.length < Frame.hello.length then return { line with state := greeting got }
  else if got = Frame.hello then
    return { line with state := reading .start, events := line.events ++ [greetingEvent] }
  else
    let words := ", ".intercalate (got.map Bytes.hexPair)
    return { line with state := invalidData s!"bad connection preamble [{words}]" }

/-- Reads on in a request. The end of the stream between requests is a good end. -/
def readRequest (reader : FrameReader) (line : Line) : Option Line :=
  let p := reader.readFrom (fun r => r.payload?.isSome) line.toServer.buffer
  let next := fun state => some { line with state, toServer.buffer := p.rest }
  match p.reader.payload? with
  | some payload =>
    match RequestFrame.decode payload with
    | .ok request => next (called request)
    | .error e => next (invalidData e.message)
  | none =>
    if line.toServer.closed then
      match p.reader with
      | .word _ => next (ended (.ok ()))
      | .payload _ _ => next (ended (.error .earlyEof))
    else if p.rest.length = line.toServer.buffer.length then none
    else next (reading p.reader)

/-- Empty frames, then the length of a response, then the response. -/
def responseBytes (keepalives : Nat) (payload : Bytes) : Except WireError Bytes :=
  (Frame.encodeLength payload.length).map fun word =>
    List.replicate (4 * keepalives) 0 ++ word ++ payload

def reply (keepalives now : Nat) (callId : Int32) (r : Reply) : ServerState :=
  match r with
  | .delayed millis r => answering callId r (now + millis)
  | .hangup => ended (.ok ())
  | r =>
    match responseBytes keepalives ((r.payload? callId).getD []) with
    | .ok bytes => sending bytes
    | .error e => invalidData e.message

/-- What the server does next on its own; nothing, while it has to wait. -/
def step (keepalives now : Nat) (line : Line) : Option Line :=
  match line.state with
  | greeting got => greet got line
  | reading reader => readRequest reader line
  | called _ | ended _ => none
  | answering callId r due =>
    if now < due then none else some { line with state := reply keepalives now callId r }
  | sending [] => some { line with state := reading .start }
  | sending rest => do
    let (result, toClient) ← line.toClient.write rest
    match result with
    | .ok n => return { line with state := sending (rest.drop n), toClient }
    | .error e => return { line with state := ended (.error e) }

structure Served where
  output : Bytes
  result : Except IoError Unit
  requests : List RequestFrame
  events : List LogEvent

/-- Serves a connection on which nothing more arrives, in at most `fuel` steps. -/
def serveFrom (handler : Handler) (keepalives : Nat) :
    (fuel now : Nat) → (seen : List RequestFrame) → Line → Served
  | 0, _, seen, line => ⟨line.toClient.buffer, .ok (), seen, line.events⟩
  | fuel + 1, now, seen, line =>
    match line.state, step keepalives now line with
    | ended result, _ => ⟨line.toClient.buffer, result, seen, line.events⟩
    | called request, _ =>
      let state := answering request.header.callId (handler seen request) now
      serveFrom handler keepalives fuel now (seen ++ [request]) { line with state }
    | state, none => serveFrom handler keepalives fuel ((state.wakeAt? now).getD now) seen line
    | _, some line => serveFrom handler keepalives fuel now seen line

/-- Serves a connection on which `input` arrives, and then its end. All output is taken. -/
def serve (handler : Handler) (keepalives : Nat) (input : Bytes) : Served :=
  serveFrom handler keepalives Testbed.patience 0 []
    { state := start
      toServer := { buffer := input, closed := true }
      toClient := { capacity := Nat.pow 2 64 } }

end ServerState
end ClusterProbe
