import ClusterProbe.Service

/-!
# Connecting to a host

A host is connected to in three steps: the session is opened, a ping tries it out, and the server
reports its status. Whatever fails after the dial closes the connection again.
-/
namespace ClusterProbe.Host

def log (level : LogLevel) (message : String) (fields : List (String × String)) : Job Unit :=
  Job.log level "yb_client::host" message fields

def fetchStatus (m : Messenger) : Job (Except ClientError ServerStatus) := do
  match ← m.getStatus with
  | .error e => return .error (.session e)
  | .ok response =>
    match response.error, response.status with
    | some error, _ => return .error (.server "GetStatus" error.text)
    | none, none => return .error (.missingStatus m.endpoint)
    | none, some status => return .ok status

def connect (endpoint : Endpoint) (timeoutMillis : UInt32) : Job (Except ClientError Host) := do
  match ← Session.connect endpoint (Session.pingProbe endpoint timeoutMillis) with
  | .error e => return .error (.session e)
  | .ok session =>
    let messenger : Messenger := { session, endpoint, timeoutMillis }
    match ← fetchStatus messenger with
    | .error e =>
      if let .error e ← Session.close session then
        log .debug "close after failed GetStatus"
          [("endpoint", endpoint.text), ("error", e.message)]
      return .error e
    | .ok status =>
      log .info "connected to server" [("endpoint", endpoint.text), ("version", status.versionText)]
      return .ok { messenger, status }

/-- The session can carry no more calls. A session that is busy counts as live. -/
def isDefunct (h : Host) : Job Bool :=
  Job.ask (.isDefunct h.session)

def close (h : Host) : Job (Except ClientError Unit) :=
  return (← Session.close h.session).mapError .session

end ClusterProbe.Host
