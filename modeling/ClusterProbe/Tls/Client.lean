import ClusterProbe.Files
import ClusterProbe.Log.Logged
import ClusterProbe.Tls.Certificate
import ClusterProbe.Tls.Certificate.Structure
import ClusterProbe.Tls.Error
import ClusterProbe.Tls.PrivateKey
import ClusterProbe.Tls.Trust

/-!
# Encrypted clients

What an encrypted connection needs, built from the files that the trust settings name: the
authorities to trust and perhaps an identity. An identity whose key does not belong to its
certificate is never built.
-/
namespace ClusterProbe

structure ClientIdentity where
  /-- The encoded certificates, the client's own one first. -/
  chain : List Bytes
  certificate : Certificate
  publicKey : Bytes
  belongs : publicKey = certificate.publicKey

structure TlsClient where
  /-- Certificates of servers are accepted whoever issued them. -/
  skipHostVerification : Bool
  authorities : List Certificate
  identity : Option ClientIdentity

namespace TlsClient

/-- Where the system keeps its authorities. -/
def systemPath : String := "/etc/ssl/certs/ca-certificates.crt"

def sessionEvent (level : LogLevel) (message : String) (fields : List (String × String)) :
    LogEvent :=
  { level, target := "yb_session::tls", message, fields }

/-- The authorities that a bundle of certificates offers; none if it is malformed. -/
def usable (bundle : Bytes) : List Certificate :=
  match Pem.certificates bundle with
  | .ok certificates => certificates.filterMap Certificate.authority?
  | .error _ => []

/-- The authorities in a file. There has to be one that can be used. -/
def authoritiesIn (files : FileReader) (path : String) : Logged TlsError (List Certificate) := do
  match files path with
  | .error e => throw (.read path e)
  | .ok bundle =>
    let authorities := usable bundle
    if authorities.isEmpty then throw (.invalidCa path)
    Logged.log (sessionEvent .debug "loaded CA bundle"
      [LogEvent.quotedField "path" path, ("added", toString authorities.length)])
    return authorities

/-- The certificates of the system, as they are kept. -/
def systemCertificates (files : FileReader) : List Bytes :=
  let content? : Except Pem.Error Pem.Section → Option Bytes
    | .ok s => if s.label = .certificate then some s.content else none
    | .error _ => none
  match files systemPath with
  | .ok text => (Pem.sections text).filterMap content?
  | .error _ => []

/-- The authorities of the system; there may be none. -/
def systemAuthorities (system : List Bytes) : Logged TlsError (List Certificate) := do
  let authorities := system.filterMap Certificate.authority?
  Logged.log (sessionEvent .debug "loaded system root certificates"
    [("added", toString authorities.length),
      ("ignored", toString (system.length - authorities.length))])
  return authorities

/-- Says why something is no key pair. -/
def keyPair {ε α : Type} (message : ε → String) (x : Except ε α) : Except TlsError α :=
  x.mapError fun e => .keyPair (message e)

/-- The identity of a chain, given by its own certificate and the others, if the key belongs to
it. -/
def identityOf (own : Bytes) (others : List Bytes) (key : Pem.Section) :
    Except TlsError ClientIdentity := do
  match PrivateKey.publicHalf? key with
  | none =>
    throw (.keyPair "unexpected error: failed to parse private key as RSA, ECDSA, or EdDSA")
  | some publicKey =>
    let certificate ← keyPair CertificateError.message (Certificate.parse own)
    if belongs : publicKey = certificate.publicKey then
      return { chain := own :: others, certificate, publicKey, belongs }
    else throw (.keyPair "keys may not be consistent: KeyMismatch")

/-- A certificate chain and its key. The parts are checked in this order: the texts, the structure
of the certificates, the key, the client's own certificate, and that the two belong together. -/
def pair (chainText keyText : Bytes) : Except TlsError ClientIdentity := do
  match ← keyPair Pem.Error.message (Pem.certificates chainText) with
  | [] => throw (.keyPair "failed to find any PEM data in certificate input")
  | own :: others =>
    (own :: others).forM fun c =>
      keyPair Certificate.StructureError.message (Certificate.checkStructure c)
    match ← keyPair Pem.Error.message (Pem.privateKey? keyText) with
    | none => throw (.keyPair "failed to find any PEM data in key input")
    | some key => identityOf own others key

/-- The identity in the files of a certificate and a key. -/
def identityIn (files : FileReader) (certificatePath keyPath : String) :
    Except TlsError ClientIdentity := do
  let chainText ← (files certificatePath).mapError .readCertificate
  let keyText ← (files keyPath).mapError .readKey
  pair chainText keyText

end TlsClient

namespace Trust

/-- The authorities that the settings name, if they name any. -/
def namedAuthorities (files : FileReader) (t : Trust) :
    Logged TlsError (Option (List Certificate)) :=
  if t.caPath.isEmpty then pure none else some <$> TlsClient.authoritiesIn files t.caPath

/-- Without named authorities those of the system count, unless everybody is trusted. -/
def authorities (system : List Bytes) (t : Trust) (named : Option (List Certificate)) :
    Logged TlsError (List Certificate) := do
  if t.skipHostVerification then
    Logged.log (TlsClient.sessionEvent .warn "server certificate verification disabled" [])
    return named.getD []
  else match named with
    | some authorities => return authorities
    | none => TlsClient.systemAuthorities system

def identity (files : FileReader) (t : Trust) : Except TlsError (Option ClientIdentity) :=
  if t.hasClientIdentity then some <$> TlsClient.identityIn files t.certificatePath t.keyPath
  else return none

/-- The client that the settings ask for, with the certificates of the system and a reader for the
files that the settings name. -/
def clientWith (system : List Bytes) (files : FileReader) (t : Trust) :
    Logged TlsError TlsClient := do
  if t.certificatePath.isEmpty ≠ t.keyPath.isEmpty then throw .incompleteClientIdentity
  let named ← t.namedAuthorities files
  let authorities ← t.authorities system named
  let identity ← Logged.lift (t.identity files)
  return { skipHostVerification := t.skipHostVerification, authorities, identity }

def client (files : FileReader) (t : Trust) : Logged TlsError TlsClient :=
  t.clientWith (TlsClient.systemCertificates files) files

end Trust
end ClusterProbe
