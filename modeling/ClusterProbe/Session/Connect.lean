import ClusterProbe.Session.Call

/-!
# Connecting

A connection is opened, greeted and tried out before anyone gets to use it. One that fails the
trial is closed again.
-/
namespace ClusterProbe

/-- Greets the far end. The greeting has to go out in one piece. -/
def Stream.sendHello (c : ConnectionId) : Job (Except SessionError Unit) := do
  match ← Job.ask (.write c Frame.hello) with
  | .error e => return .error (.io e)
  | .ok n =>
    if n = Frame.hello.length then
      match ← Job.ask (.flush c) with
      | .error e => return .error (.io e)
      | .ok () =>
        Job.log .trace "yb_session::handshake" "sent connection preamble" []
        return .ok ()
    else return .error (.handshake s!"hello did not write {Frame.hello.length} bytes")

namespace Session

/-- A trial of a session that has just been opened. -/
abbrev Probe := SessionId → Job (Except SessionError Unit)

def noProbe : Probe := fun _ => return .ok ()

def connect (endpoint : Endpoint) (probe : Probe) : Job (Except SessionError SessionId) := do
  log .debug "connecting" endpoint
  match ← Job.ask (.dial endpoint) with
  | .error e => return .error e
  | .ok c =>
    match ← Stream.sendHello c with
    | .error e =>
      let _ ← Job.ask (.hangUp c)
      return .error e
    | .ok () =>
      let s ← Job.ask (.openSession endpoint c)
      match ← probe s with
      | .error source =>
        log .debug "liveness probe failed" endpoint [("error", source.message)]
        if let .error e ← close s then
          log .debug "close after failed probe" endpoint [("error", e.message)]
        return .error (.probe endpoint source)
      | .ok () =>
        log .debug "session established" endpoint
        return .ok s

end Session
end ClusterProbe
