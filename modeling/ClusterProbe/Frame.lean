import ClusterProbe.Messages.Header

/-!
# Frames

A frame carries one request or response: a four-byte length, then the header behind its own
length, then the body behind its own length. A response without a body ends after its header, so a
void reply differs from an empty body. The module writes and reads the part after the four bytes.
-/
namespace ClusterProbe

open Protobuf

inductive WireError where
  | varintCorruption
  | truncated (part : String) (needed available : Nat)
  | size (bytes : Nat)
  | decode (part : String) (source : DecodeError)
  | missingMethod
  deriving DecidableEq, Repr

namespace WireError

def name : WireError → String
  | varintCorruption => "VarintCorruption"
  | truncated _ _ _ => "Truncated"
  | size _ => "Size"
  | decode _ _ => "Decode"
  | missingMethod => "MissingMethod"

def message : WireError → String
  | varintCorruption => "varint corruption"
  | truncated part needed available =>
    s!"truncated {part}: need {needed} bytes, have {available}"
  | size bytes => s!"frame of {bytes} bytes exceeds size limit"
  | decode part source => s!"failed to decode {part}: {source.message}"
  | missingMethod => "request header has no remote method"

def sources : WireError → List String
  | decode _ source => [source.message]
  | _ => []

end WireError

namespace Frame

/-- The bytes a client sends when a connection opens. -/
def hello : Bytes := [0x59, 0x42, 0x01]

/-- The timeout that a request advises unless it is told another. -/
def defaultTimeoutMillis : UInt32 := 3000

/-- The longest response that a client takes unless it is told otherwise. -/
def defaultMaxSize : Nat := 64 * 1024 * 1024

/-- The four bytes in front of a payload. -/
def encodeLength (length : Nat) : Except WireError Bytes :=
  if length < Nat.pow 2 32 then .ok (Bytes.bigEndian32 (UInt32.ofNat length))
  else .error (.size length)

/-- The payload length that four bytes announce; zero marks an empty frame. -/
def decodeLength (word : Bytes) : Option Nat :=
  match Bytes.bigEndianNat word with
  | 0 => none
  | n => some n

/-- Splits off a section that stands behind its length. -/
def splitSection (part : String) (bs : Bytes) : Except WireError (Bytes × Bytes) :=
  match decodeVarint bs with
  | none => .error .varintCorruption
  | some (needed, rest) =>
    match take? needed rest with
    | some r => .ok r
    | none => .error (.truncated part needed rest.length)

def decodeSection (part : String) (M : Type) [Message M] (bs : Bytes) : Except WireError M :=
  (Message.decode M bs).mapError (.decode part)

def encodeSections {M : Type} [Message M] (header : M) (body : Option Bytes) : Bytes :=
  delimited (Message.encode header) ++
    match body with
    | some bs => delimited bs
    | none => []

end Frame

open ClusterProbe.Frame

structure RequestFrame where
  header : RequestHeader
  body : Bytes
  deriving DecidableEq, Repr

namespace RequestFrame

def forMethod (callId : Int32) (method : RemoteMethod) (timeoutMillis : UInt32) (body : Bytes) :
    RequestFrame :=
  { header := { callId, remoteMethod := some method, timeoutMillis := some timeoutMillis }, body }

def encode (f : RequestFrame) : Bytes :=
  encodeSections f.header (some f.body)

/-- Nothing after the header means an empty body; bytes after the body are ignored. -/
def decode (bs : Bytes) : Except WireError RequestFrame := do
  let (section1, rest) ← splitSection "request header" bs
  let header ← decodeSection "request header" RequestHeader section1
  if header.remoteMethod.isNone then .error .missingMethod
  else if rest.isEmpty then .ok { header, body := [] }
  else
    let (body, _) ← splitSection "request body" rest
    .ok { header, body }

end RequestFrame

structure ResponseFrame where
  header : ResponseHeader
  body : Option Bytes
  deriving DecidableEq, Repr

namespace ResponseFrame

def success (callId : Int32) (body : Bytes) : ResponseFrame :=
  { header := { callId, isError := none, sidecarOffsets := [] }, body := some body }

def void (callId : Int32) : ResponseFrame :=
  { header := { callId, isError := none, sidecarOffsets := [] }, body := none }

def failure (callId : Int32) (status : ErrorStatus) : ResponseFrame :=
  { header := { callId, isError := some true, sidecarOffsets := [] }
    body := some (Message.encode status) }

def isError (f : ResponseFrame) : Bool :=
  f.header.isError.getD false

def errorStatus (f : ResponseFrame) : Except WireError ErrorStatus :=
  decodeSection "error status" ErrorStatus (f.body.getD [])

def encode (f : ResponseFrame) : Bytes :=
  encodeSections f.header f.body

/-- A response and the bytes after its body, which belong to sidecars. -/
def decodeWithRest (bs : Bytes) : Except WireError (ResponseFrame × Bytes) := do
  let (section1, rest) ← splitSection "response header" bs
  let header ← decodeSection "response header" ResponseHeader section1
  if rest.isEmpty then .ok ({ header, body := none }, [])
  else
    let (body, rest) ← splitSection "response body" rest
    .ok ({ header, body := some body }, rest)

def decode (bs : Bytes) : Except WireError ResponseFrame :=
  (decodeWithRest bs).map (·.1)

end ResponseFrame
end ClusterProbe
