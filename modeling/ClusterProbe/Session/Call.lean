import ClusterProbe.Job

/-!
# Calls on a session

A call holds the session from the moment it gets its number until its answer has been read, so
calls on one session follow one another. Whatever goes wrong in between leaves the stream at a
place nobody knows, and the session is shut down. An answer that reports an error is an answer:
the session goes on.
-/
namespace ClusterProbe

namespace Stream

/-- Writes at most `fuel` pieces; each takes at least one byte. -/
def writePieces (c : ConnectionId) : (fuel : Nat) → Bytes → Job (Except IoError Unit)
  | 0, _ | _, [] => return .ok ()
  | fuel + 1, bytes => do
    match ← Job.ask (.write c bytes) with
    | .error e => return .error e
    | .ok n => writePieces c fuel (bytes.drop n)

def writeAll (c : ConnectionId) (bytes : Bytes) : Job (Except IoError Unit) :=
  writePieces c bytes.length bytes

/-- Reads until `count` bytes are there, in at most `fuel` pieces. -/
def readPieces (c : ConnectionId) : (fuel count : Nat) → Job (Except IoError Bytes)
  | 0, _ | _, 0 => return .ok []
  | fuel + 1, count => do
    match ← Job.ask (.read c count) with
    | .error e => return .error e
    | .ok [] => return .error .earlyEof
    | .ok piece => return (← readPieces c fuel (count - piece.length)).map (piece ++ ·)

/-- Reads exactly `count` bytes; it is an error if the stream ends before. -/
def readExactly (c : ConnectionId) (count : Nat) : Job (Except IoError Bytes) :=
  readPieces c count count

end Stream

namespace Session

def log (level : LogLevel) (message : String) (e : Endpoint) (more : List (String × String) := []) :
    Job Unit :=
  Job.log level "yb_session::session" message (("endpoint", e.text) :: more)

def guarded {α : Type} (s : SessionId) (body : Session → Job α) : Job α := do
  let session ← Job.ask (.acquire s)
  let result ← body session
  Job.ask (.release s)
  return result

/-- Shuts down a session that is out of step. -/
def abort (s : SessionId) (session : Session) : Job Unit := do
  Job.ask (.store s session.closed.finish)
  if let some c := session.stream then
    log .debug "shutting down out-of-sync session" session.endpoint
    if let .error e ← Job.ask (.hangUp c) then
      log .debug "shutdown failed" session.endpoint [("error", e.message)]

/-- Starts a call. A mark left behind by an earlier call costs the session. -/
def beginCall (s : SessionId) (session : Session) :
    Job (Except SessionError (ConnectionId × Int32 × Session)) := do
  if session.inFlight then
    log .warn "previous call abandoned mid-exchange, closing session" session.endpoint
    abort s session
    return .error (.desynced session.endpoint)
  match session.start with
  | .error e => return .error e
  | .ok (c, callId, session) =>
    Job.ask (.store s session)
    return .ok (c, callId, session)

/-- Shuts a session down, after the call that is under way. -/
def close (s : SessionId) : Job (Except SessionError Unit) := do
  let session ← Job.ask (.acquire s)
  match session.stream with
  | none =>
    Job.ask (.release s)
    return .error (.closed session.endpoint)
  | some c =>
    Job.ask (.store s session.closed)
    Job.ask (.release s)
    log .debug "closing session" session.endpoint
    match ← Job.ask (.hangUp c) with
    | .ok () => return .ok ()
    | .error e => return if e.kind = .notConnected then .ok () else .error (.io e)

end Session

/-- The report of bytes that stand behind the body. -/
def ResponseFrame.restEvent (response : ResponseFrame) (rest : Bytes) : LogEvent where
  level := .trace
  target := "yb_wire::frame"
  message := "ignoring bytes after response body"
  fields := [("call_id", toString response.header.callId.toInt),
    ("trailing", toString rest.length),
    ("sidecars", toString response.header.sidecarOffsets.length)]

namespace Messenger

def log (level : LogLevel) (message : String) (fields : List (String × String)) : Job Unit :=
  Job.log level "yb_session::messenger" message fields

def callField (callId : Int32) : String × String :=
  ("call_id", toString callId.toInt)

def methodFields (method : RemoteMethod) : List (String × String) :=
  [LogEvent.quotedField "service" method.serviceName,
    LogEvent.quotedField "method" method.methodName]

/-- Writes a request behind its length and sends both off. -/
def writeRequest (c : ConnectionId) (payload : Bytes) : Job (Except SessionError Unit) := do
  match Frame.encodeLength payload.length with
  | .error e => return .error (.protocol (.wire e))
  | .ok word =>
    match ← Stream.writeAll c word with
    | .error e => return .error (.io e)
    | .ok () =>
      match ← Stream.writeAll c payload with
      | .error e => return .error (.io e)
      | .ok () => return (← Job.ask (.flush c)).mapError .io

/-- Reads the next frame that carries something as the answer to call `callId`. -/
def readResponse (m : Messenger) (c : ConnectionId) (callId : Int32) :
    Job (Except SessionError ResponseFrame) := do
  Job.ask (.expect c)
  match ← Job.ask (.receive c m.maxFrameSize callId) with
  | .error e => return .error e
  | .ok payload =>
    match ResponseFrame.decodeWithRest payload with
    | .error e => return .error (.protocol (.wire e))
    | .ok (response, rest) =>
      unless rest.isEmpty do
        Job.ask (.log (response.restEvent rest))
      return .ok response

/-- Writes a request and reads its answer, which has to carry the same number. -/
def exchange (m : Messenger) (c : ConnectionId) (request : RequestFrame) :
    Job (Except SessionError ResponseFrame) := do
  let expected := request.header.callId
  match ← writeRequest c request.encode with
  | .error e => return .error e
  | .ok () =>
    match ← m.readResponse c expected with
    | .error e => return .error e
    | .ok response =>
      let actual := response.header.callId
      return if actual = expected then .ok response
        else .error (.protocol (.callIdMismatch expected actual))

/-- What an answer that has been read whole means to the caller. -/
def interpret (m : Messenger) (method : RemoteMethod) (response : ResponseFrame) :
    Job (Except SessionError Bytes) := do
  let callId := response.header.callId
  if response.isError then
    match response.errorStatus with
    | .error e => return .error (.protocol (.wire e))
    | .ok status =>
      let e := RpcError.ofStatus status
      log .debug "remote error" <| ("endpoint", m.endpoint.text) :: callField callId ::
        methodFields method ++ [("error", e.message)]
      return .error (.remote e)
  else
    log .trace "received response" <| callField callId ::
      (response.body.map fun body => ("len", toString body.length)).toList
    return .ok (response.body.getD [])

/-- Carries out a call on a session that one holds. -/
def callHeld (m : Messenger) (method : RemoteMethod) (body : Bytes) (session : Session) :
    Job (Except SessionError Bytes) := do
  match ← Session.beginCall m.session session with
  | .error e => return .error e
  | .ok (c, callId, session) =>
    log .debug "sending request" <|
      ("endpoint", m.endpoint.text) :: callField callId :: methodFields method
    match ← m.exchange c (.forMethod callId method m.timeoutMillis body) with
    | .error e =>
      log .debug "exchange failed, closing session"
        [("endpoint", m.endpoint.text), callField callId, ("error", e.message)]
      Session.abort m.session session
      return .error e
    | .ok response =>
      Job.ask (.store m.session session.finish)
      m.interpret method response

/-- Calls a method with an encoded request; the result is the encoded answer. -/
def call (m : Messenger) (method : RemoteMethod) (body : Bytes) :
    Job (Except SessionError Bytes) :=
  Session.guarded m.session (m.callHeld method body)

/-- Calls a method with messages on both sides. -/
def callTyped {Q : Type} [Protobuf.Message Q] (A : Type) [Protobuf.Message A] (m : Messenger)
    (method : RemoteMethod) (request : Q) : Job (Except SessionError A) := do
  match ← m.call method (Protobuf.Message.encode request) with
  | .error e => return .error e
  | .ok body =>
    return (Protobuf.Message.decode A body).mapError fun e => .protocol (.decode method e)

end Messenger
end ClusterProbe
