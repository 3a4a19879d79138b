import ClusterProbe.Cluster.Error
import ClusterProbe.Messages.Generic
import ClusterProbe.Session

/-!
# Hosts

A host is a connected server together with the status it reported when it was connected to.
-/
namespace ClusterProbe

/-- Where calls go and how: the session, the timeout that requests advise, the longest answer. -/
structure Messenger where
  session : SessionId
  endpoint : Endpoint
  timeoutMillis : UInt32 := Frame.defaultTimeoutMillis
  maxFrameSize : Nat := Frame.defaultMaxSize
  deriving DecidableEq, Repr

structure Host where
  messenger : Messenger
  status : ServerStatus
  deriving DecidableEq, Repr

namespace Uuid

/-- The UUID that a server sends as text. -/
def ofRaw (raw : Bytes) : Except ClientError Uuid :=
  match parse? (raw.map fun b => Char.ofNat b.toNat) with
  | some u => .ok u
  | none => .error (.invalidUuid (Utf8.decodeLossy raw))

end Uuid

namespace Host

def session (h : Host) : SessionId := h.messenger.session

def endpoint (h : Host) : Endpoint := h.messenger.endpoint

def uuid (h : Host) : Except ClientError Uuid :=
  Uuid.ofRaw h.status.rawUuid

end Host
end ClusterProbe
