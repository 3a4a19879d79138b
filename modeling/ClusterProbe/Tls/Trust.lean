import ClusterProbe.Document
import ClusterProbe.Text.Quoted

/-!
# Trust

Whom a connection trusts and how it identifies itself. Empty paths mean that nothing is configured;
without any setting connections are not encrypted.
-/
namespace ClusterProbe

structure Trust where
  skipHostVerification : Bool := false
  /-- Certificates of trusted authorities; those of the system if empty. -/
  caPath : String := ""
  certificatePath : String := ""
  keyPath : String := ""
  deriving DecidableEq, Repr, Inhabited

namespace Trust

def hasTls (t : Trust) : Bool :=
  t ≠ {}

def hasClientIdentity (t : Trust) : Bool :=
  t.certificatePath ≠ "" ∨ t.keyPath ≠ ""

def debugText (t : Trust) : String :=
  s!"TrustConfig \x7b skip_host_verification: {t.skipHostVerification}, " ++
    s!"ca_cert_path: {Text.quoted t.caPath}, cert_path: {Text.quoted t.certificatePath}, " ++
    s!"key_path: {Text.quoted t.keyPath} \x7d"

/-- The settings and what follows from them. -/
def document (t : Trust) : Document :=
  .record [("skip_host_verification", .bool t.skipHostVerification),
    ("ca_cert_path", .text t.caPath), ("cert_path", .text t.certificatePath),
    ("key_path", .text t.keyPath), ("has_tls", .bool t.hasTls)]

end Trust
end ClusterProbe
