import ClusterProbe.Duration
import ClusterProbe.Endpoint
import ClusterProbe.Frame
import ClusterProbe.IoError

/-!
# Session failures

What can go wrong between dialing a server and reading its answer. A protocol error belongs to one
call; raised in the middle of an exchange it costs the session.
-/
namespace ClusterProbe

open Protobuf

inductive ProtocolError where
  | shortLengthWrite
  | shortFrameWrite (written expected : Nat)
  | frameLength (callId : Int32) (source : IoError)
  | shortRead (read expected : Nat)
  | callIdMismatch (expected actual : Int32)
  | wire (error : WireError)
  | callIdsExhausted
  | decode (method : RemoteMethod) (source : DecodeError)
  deriving DecidableEq, Repr

namespace ProtocolError

/-- The name of the kind of an error, with that of the error in it. -/
def name : ProtocolError → String
  | shortLengthWrite => "ShortLengthWrite"
  | shortFrameWrite _ _ => "ShortFrameWrite"
  | frameLength _ _ => "FrameLength"
  | shortRead _ _ => "ShortRead"
  | callIdMismatch _ _ => "CallIdMismatch"
  | wire error => "Wire." ++ error.name
  | callIdsExhausted => "CallIdsExhausted"
  | decode _ _ => "Decode"

def message : ProtocolError → String
  | shortLengthWrite => "packet len not 4 bytes"
  | shortFrameWrite _ _ => "request over the wire not equal to messageLen"
  | frameLength callId source => s!"invalid message len callID {callId.toInt}: {source.message}"
  | shortRead read expected => s!"connection closed after {read} of {expected} response bytes"
  | callIdMismatch expected actual =>
    s!"unknown call ID in response: expected {expected.toInt}, got {actual.toInt}"
  | wire error => error.message
  | callIdsExhausted => "call IDs exhausted on this session"
  | decode method source =>
    s!"failed to decode response to {method.serviceName}.{method.methodName}: {source.message}"

def sources : ProtocolError → List String
  | frameLength _ source => [source.message]
  | wire error => error.sources
  | decode _ source => [source.message]
  | _ => []

end ProtocolError

inductive SessionError where
  | dial (endpoint : Endpoint) (source : IoError)
  | dialTimeout (endpoint : Endpoint) (limit : Duration)
  | handshake (text : String)
  | probe (endpoint : Endpoint) (source : SessionError)
  | protocol (error : ProtocolError)
  | remote (error : RpcError)
  | io (error : IoError)
  | closed (endpoint : Endpoint)
  | desynced (endpoint : Endpoint)
  deriving DecidableEq, Repr

namespace SessionError

/-- The name of the kind of an error, with that of the error in it. -/
def name : SessionError → String
  | dial _ _ => "Dial"
  | dialTimeout _ _ => "DialTimeout"
  | handshake _ => "Handshake"
  | probe _ source => "Probe." ++ source.name
  | protocol error => "Protocol." ++ error.name
  | remote error => "Remote." ++ error.code.name
  | io _ => "Io"
  | closed _ => "Closed"
  | desynced _ => "Desynced"

def message : SessionError → String
  | dial endpoint source => s!"could not dial {endpoint.text}: {source.message}"
  | dialTimeout endpoint limit => s!"dial {endpoint.text} timed out after {limit.text}"
  | handshake text => text
  | probe endpoint source => s!"liveness probe to {endpoint.text} failed: {source.message}"
  | protocol error => error.message
  | remote error => error.message
  | io error => s!"i/o error: {error.message}"
  | closed endpoint => s!"session to {endpoint.text} is closed"
  | desynced endpoint => s!"session to {endpoint.text} lost framing after an abandoned call"

def sources : SessionError → List String
  | dial _ source => [source.message]
  | probe _ source => source.message :: source.sources
  | protocol error => error.sources
  | io error => [error.message]
  | _ => []

/-- The endpoint that could not be reached, when that is what failed. -/
def dialEndpoint? : SessionError → Option Endpoint
  | dial endpoint _ | dialTimeout endpoint _ => some endpoint
  | _ => none

def isDial (e : SessionError) : Bool :=
  e.dialEndpoint?.isSome

end SessionError
end ClusterProbe
