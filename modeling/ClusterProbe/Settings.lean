import ClusterProbe.Document
import ClusterProbe.Duration.Spelled
import ClusterProbe.Failure
import ClusterProbe.Universe

/-!
# Settings

What a user can configure, as it was written: addresses and durations are texts until they are
needed. Settings come from a file, the environment and the command line, later ones win.
-/
namespace ClusterProbe

structure TlsSettings where
  caPath : Option String := none
  certificatePath : Option String := none
  keyPath : Option String := none
  skipHostVerification : Bool := false
  deriving DecidableEq, Repr, Inhabited

structure Settings where
  /-- Addresses of masters between commas. -/
  masterAddresses : Option String := none
  dialTimeout : Option String := none
  rpcTimeoutMillis : Option UInt32 := none
  tls : TlsSettings := {}
  deriving DecidableEq, Repr, Inhabited

/-- An optional value, spelled out. -/
def Text.optionText (text : Option String) : String :=
  (text.map fun s => s!"Some({s})").getD "None"

namespace TlsSettings

def debugText (s : TlsSettings) : String :=
  let path := fun o : Option String => Text.optionText (o.map Text.quoted)
  s!"TlsSettings \x7b cacert: {path s.caPath}, client_cert: {path s.certificatePath}, " ++
    s!"client_key: {path s.keyPath}, skip_host_verification: {s.skipHostVerification} \x7d"

def document (s : TlsSettings) : Document :=
  .record [("cacert", .ofOption .text s.caPath), ("client_cert", .ofOption .text s.certificatePath),
    ("client_key", .ofOption .text s.keyPath),
    ("skip_host_verification", .bool s.skipHostVerification)]

/-- A path that is not set is empty. -/
def trust (s : TlsSettings) : Trust where
  skipHostVerification := s.skipHostVerification
  caPath := s.caPath.getD ""
  certificatePath := s.certificatePath.getD ""
  keyPath := s.keyPath.getD ""

end TlsSettings

namespace Settings

def debugText (s : Settings) : String :=
  let quoted := fun o : Option String => Text.optionText (o.map Text.quoted)
  let rpc := Text.optionText (s.rpcTimeoutMillis.map fun n => toString n.toNat)
  s!"ToolConfig \x7b master_addresses: {quoted s.masterAddresses}, " ++
    s!"dial_timeout: {quoted s.dialTimeout}, rpc_timeout_millis: {rpc}, " ++
    s!"tls: {s.tls.debugText} \x7d"

def document (s : Settings) : Document :=
  .record [("master_addresses", .ofOption .text s.masterAddresses),
    ("dial_timeout", .ofOption .text s.dialTimeout),
    ("rpc_timeout_millis", .ofOption (fun n => .int n.toNat) s.rpcTimeoutMillis),
    ("tls", s.tls.document)]

def masters (s : Settings) : Except Failure (List Endpoint) :=
  match s.masterAddresses with
  | none => .error ⟨"no master addresses configured " ++
      "(use --master-addresses or YUGATOOL_MASTER_ADDRESSES)", []⟩
  | some list => (Endpoint.parseList list Endpoint.masterPort).mapError fun e =>
      ⟨s!"invalid master address list {Text.quoted list}", [e.message]⟩

def dialLimit (s : Settings) : Except Failure Duration :=
  match s.dialTimeout with
  | none => .ok (.ofSeconds 60)
  | some text => (Duration.parse text).mapError fun e =>
      ⟨s!"invalid dial timeout {Text.quoted text}", [e.message]⟩

/-- The trust settings, unless nothing asks for encryption. -/
def trust (s : Settings) : Option Trust :=
  some s.tls.trust |>.filter Trust.hasTls

def toUniverse (s : Settings) (masters : List Endpoint) : Except Failure Universe := do
  let dialTimeout ← s.dialLimit
  let rpcTimeoutMillis := s.rpcTimeoutMillis.getD 3000
  return { masters, dialTimeout, rpcTimeoutMillis, trust := s.trust }

end Settings
end ClusterProbe
