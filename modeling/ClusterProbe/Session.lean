import ClusterProbe.Session.Error

/-!
# Sessions

A session is one connection to one server, on which calls follow one another. It is marked in
flight from the moment a call has its number until its whole answer has been read. A call that was
given up in between leaves the mark behind, and with it a stream whose position nobody knows.
-/
namespace ClusterProbe

/-- A connection, by the number under which it was opened. -/
abbrev ConnectionId := Nat

/-- A session, by the number under which it was opened. -/
abbrev SessionId := Nat

structure Session where
  endpoint : Endpoint
  /-- The connection, until the session is closed. -/
  stream : Option ConnectionId
  inFlight : Bool := false
  /-- The number of the latest call; the first call gets 1. -/
  lastCallId : Int32 := 0
  deriving DecidableEq, Repr

namespace Session

/-- No call can be carried any more: closed, failed, or given up in the middle of a call. -/
def isClosed (s : Session) : Bool :=
  s.stream.isNone || s.inFlight

/-- The connection, if the session still has one. -/
def open? (s : Session) : Except SessionError ConnectionId :=
  match s.stream with
  | some c => .ok c
  | none => .error (.closed s.endpoint)

/-- The next call number. Numbers are used once, and they run out. -/
def nextCallId (s : Session) : Except ProtocolError (Int32 × Session) :=
  if s.lastCallId < Int32.maxValue then
    .ok (s.lastCallId + 1, { s with lastCallId := s.lastCallId + 1 })
  else .error .callIdsExhausted

/-- Gives an open session that is in step its next call number and marks it in flight. -/
def start (s : Session) : Except SessionError (ConnectionId × Int32 × Session) := do
  let c ← s.open?
  let (callId, s) ← s.nextCallId.mapError .protocol
  return (c, callId, { s with inFlight := true })

/-- The answer has been read whole. -/
def finish (s : Session) : Session :=
  { s with inFlight := false }

def closed (s : Session) : Session :=
  { s with stream := none }

end Session
end ClusterProbe
