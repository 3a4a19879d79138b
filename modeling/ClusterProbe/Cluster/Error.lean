import ClusterProbe.Messages.Master
import ClusterProbe.Session.Error
import ClusterProbe.Tls.Error
import ClusterProbe.Uuid

/-!
# Cluster failures

What can go wrong in finding the cluster and talking to its servers, and a coarse classification of
it. Only a failure to dial is benign: a caller that works through many servers may skip that one.
-/
namespace ClusterProbe

inductive ErrorKind where
  | dial | handshake | protocol | tlsConfig | application | topology | config | io
  deriving DecidableEq, Repr

namespace ErrorKind

def name : ErrorKind → String
  | dial => "Dial"
  | handshake => "Handshake"
  | protocol => "Protocol"
  | tlsConfig => "TlsConfig"
  | application => "Application"
  | topology => "Topology"
  | config => "Config"
  | io => "Io"

end ErrorKind

inductive ClientError where
  | session (error : SessionError)
  | tls (error : TlsError)
  | noLeader
  | unknownUuid (uuid : Uuid)
  | invalidUuid (raw : String)
  | noRpcAddress (uuid : Uuid)
  | master (method : String) (code : MasterErrorCode) (text : String)
  | server (method : String) (text : String)
  | missingStatus (endpoint : Endpoint)
  | config (error : EndpointError)
  deriving DecidableEq, Repr

def SessionError.kind : SessionError → ErrorKind
  | dial _ _ | dialTimeout _ _ => .dial
  | handshake _ => .handshake
  | probe _ (remote _) => .application
  | probe _ _ => .handshake
  | protocol (.frameLength _ _) => .io
  | protocol _ => .protocol
  | remote _ => .application
  | io _ | closed _ | desynced _ => .io

namespace ClientError

/-- The name of an error, with that of the error in it. -/
def name : ClientError → String
  | session error => "Session." ++ error.name
  | tls error => "Tls." ++ error.name
  | noLeader => "NoLeader"
  | unknownUuid _ => "UnknownUuid"
  | invalidUuid _ => "InvalidUuid"
  | noRpcAddress _ => "NoRpcAddress"
  | master _ _ _ => "Master"
  | server _ _ => "Server"
  | missingStatus _ => "MissingStatus"
  | config _ => "Config"

/-- Why a text is not a UUID. -/
def uuidFailure : String := "failed to parse a UUID"

def message : ClientError → String
  | session error => error.message
  | tls error => error.message
  | noLeader => "could not connect to master leader"
  | unknownUuid uuid => s!"tablet server {uuid.text} not found in the cluster topology"
  | invalidUuid raw => s!"invalid server UUID {Text.quoted raw}: {uuidFailure}"
  | noRpcAddress uuid => s!"tablet server {uuid.text} has no RPC address"
  | master method code text => s!"{method} returned error: {code.name}: {text}"
  | server method text => s!"{method} returned error: {text}"
  | missingStatus endpoint => s!"{endpoint.text} did not report its status"
  | config error => s!"invalid configuration: {error.message}"

def sources : ClientError → List String
  | session error => error.sources
  | tls error => error.sources
  | invalidUuid _ => [uuidFailure]
  | config error => [error.message]
  | _ => []

def kind : ClientError → ErrorKind
  | session error => error.kind
  | tls _ => .tlsConfig
  | noLeader | unknownUuid _ | invalidUuid _ | noRpcAddress _ => .topology
  | master _ _ _ | server _ _ => .application
  | missingStatus _ => .protocol
  | config _ => .config

/-- The server could not be dialed, so it was never connected to. -/
def isDial (e : ClientError) : Bool :=
  e.kind = .dial

end ClientError
end ClusterProbe
