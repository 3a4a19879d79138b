import ClusterProbe.Session.Call

/-!
# Single operations on a session

What a caller can do who takes a session for one step at a time. Such a caller is trusted: raw
reading and writing do not ask whether a call is under way.
-/
namespace ClusterProbe.Session

/-- Uses the connection of a session that still has one. -/
def onStream {α : Type} (s : SessionId) (body : ConnectionId → Job (Except IoError α)) :
    Job (Except SessionError α) :=
  guarded s fun session =>
    match session.open? with
    | .error e => return .error e
    | .ok c => return (← body c).mapError .io

def write (s : SessionId) (bytes : Bytes) : Job (Except SessionError Nat) :=
  onStream s fun c => return (← Stream.writeAll c bytes).map fun () => bytes.length

def flush (s : SessionId) : Job (Except SessionError Unit) :=
  onStream s fun c => Job.ask (.flush c)

def read (s : SessionId) (count : Nat) : Job (Except SessionError Bytes) :=
  onStream s fun c => Job.ask (.read c count)

def readExact (s : SessionId) (count : Nat) : Job (Except SessionError Bytes) :=
  onStream s fun c => Stream.readExactly c count

/-- Takes the next call number, whatever the state of the session. -/
def generateCallId (s : SessionId) : Job (Except ProtocolError Int32) :=
  guarded s fun session =>
    match session.nextCallId with
    | .error e => return .error e
    | .ok (callId, session) => do
      Job.ask (.store s session)
      return .ok callId

def begin (s : SessionId) : Job (Except SessionError Int32) :=
  guarded s fun session => return (← beginCall s session).map (·.2.1)

def finishCall (s : SessionId) : Job Unit :=
  guarded s fun session => Job.ask (.store s session.finish)

def abortCall (s : SessionId) : Job Unit :=
  guarded s fun session => abort s session

/-- Whether the session can carry no more calls; waits for a call that is under way. -/
def checkClosed (s : SessionId) : Job Bool :=
  guarded s fun session => return session.isClosed

/-- The answer to whether a session is defunct, while someone holds it. -/
def defunctWhileHeld (s : SessionId) : Job Bool :=
  guarded s fun _ => Job.ask (.isDefunct s)

end ClusterProbe.Session
