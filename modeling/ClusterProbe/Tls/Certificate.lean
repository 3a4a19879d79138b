import ClusterProbe.Tls.Der

/-!
# Certificates

As much of an X.509 certificate as it takes to trust it or to tell whose key it holds: the public
key, and whether the rest is in order. Certificates of the third version are read; those of the
first can be trusted as authorities, but cannot identify anyone.
-/
namespace ClusterProbe

inductive CertificateError where
  | badEncoding
  | unsupportedVersion
  | signatureAlgorithmMismatch
  | unhandledCriticalExtension
  | invalidExtension
  deriving DecidableEq, Repr

namespace CertificateError

def message (e : CertificateError) : String :=
  "invalid peer certificate: " ++ match e with
    | badEncoding => "BadEncoding"
    | unsupportedVersion => "Other(OtherError(UnsupportedCertVersion))"
    | signatureAlgorithmMismatch => "Other(OtherError(SignatureAlgorithmMismatch))"
    | unhandledCriticalExtension => "UnhandledCriticalExtension"
    | invalidExtension => "Other(OtherError(ExtensionValueInvalid))"

end CertificateError

structure Certificate where
  subject : Bytes
  /-- The public key with its algorithm. -/
  publicKey : Bytes
  deriving DecidableEq, Repr

namespace Certificate

/-- Says what is wrong with data that cannot be decoded. -/
def decoded {α : Type} (data : Option α) : Except CertificateError α :=
  match data with
  | some a => .ok a
  | none => .error .badEncoding

/-- The last number of an object identifier among the certificate extensions. -/
def extensionNumber? : Bytes → Option Nat
  | [0x55, 0x1D, n] => some n.toNat
  | _ => none

/-- Extensions that are understood: key usage, alternative names, basic constraints, name
constraints, revocation list distribution points and extended key usage. -/
def knownExtensions : List Nat := [15, 17, 19, 30, 31, 37]

/-- Checks an extension, given the known ones before it. An unknown one must not be critical. -/
def checkExtension (seen : List Nat) (bs : Bytes) : Except CertificateError (List Nat) := do
  let (id, rest) ← decoded (Der.expect? Der.Tag.objectId bs)
  let (critical, rest) ← match rest with
    | 0x01 :: 0x01 :: b :: rest =>
      if b = 0xFF then pure (true, rest) else if b = 0 then pure (false, rest)
      else throw .badEncoding
    | _ => pure (false, rest)
  let value ← decoded (Der.whole? Der.Tag.octetString rest)
  match (extensionNumber? id).filter knownExtensions.contains with
  | none => if critical then throw .unhandledCriticalExtension else return seen
  | some n =>
    if n ∈ seen then throw .invalidExtension
    if n ≠ 15 then
      let _ ← decoded (Der.whole? Der.Tag.sequence value)
    return n :: seen

/-- Checks extensions one by one; a sequence has fewer of them than bytes. -/
def checkExtensions (seen : List Nat) : (fuel : Nat) → Bytes → Except CertificateError Unit
  | _, [] => .ok ()
  | 0, _ => .error .badEncoding
  | fuel + 1, bs => do
    let (extension, rest) ← decoded (Der.expect? Der.Tag.sequence bs)
    checkExtensions (← checkExtension seen extension) fuel rest

/-- The extensions at the end of a certificate, if there are any. -/
def checkTail (bs : Bytes) : Except CertificateError Unit := do
  if bs.isEmpty then return ()
  let tagged ← decoded (Der.whole? (Der.Tag.context 3) bs)
  let extensions ← decoded (Der.whole? Der.Tag.sequence tagged)
  checkExtensions [] extensions.length extensions

/-- What is signed, the algorithm and the signature; nothing follows. -/
def outer? (bs : Bytes) : Option (Bytes × Bytes) := do
  let content ← Der.whole? Der.Tag.sequence bs
  let (signed, rest) ← Der.expect? Der.Tag.sequence content
  let (algorithm, rest) ← Der.expect? Der.Tag.sequence rest
  let (_, rest) ← Der.bytesOfBits? rest
  if rest.isEmpty then some (signed, algorithm) else none

def parse (bs : Bytes) : Except CertificateError Certificate := do
  let (signed, algorithm) ← decoded (outer? bs)
  match Der.expect? (Der.Tag.context 0) signed with
  | none => throw .unsupportedVersion
  | some (version, rest) =>
    let (n, extra) ← decoded (Der.small? version)
    if n ≠ 2 ∨ !extra.isEmpty then throw .unsupportedVersion
    let (_, rest) ← decoded (Der.expect? Der.Tag.integer rest)
    let (signature, rest) ← decoded (Der.expect? Der.Tag.sequence rest)
    if signature ≠ algorithm then throw .signatureAlgorithmMismatch
    let (_, rest) ← decoded (Der.expect? Der.Tag.sequence rest)
    let (_, rest) ← decoded (Der.expect? Der.Tag.sequence rest)
    let (subject, rest) ← decoded (Der.expect? Der.Tag.sequence rest)
    let (publicKey, rest) ← decoded (Der.expect? Der.Tag.sequence rest)
    checkTail rest
    return { subject, publicKey }

/-- A certificate of the first version, which has neither a version number nor extensions. -/
def parseFirst? (bs : Bytes) : Option Certificate := do
  let (signed, _) ← outer? bs
  let (_, rest) ← Der.expect? Der.Tag.integer signed
  let (_, rest) ← Der.expect? Der.Tag.sequence rest
  let (_, rest) ← Der.expect? Der.Tag.sequence rest
  let (_, rest) ← Der.expect? Der.Tag.sequence rest
  let (subject, rest) ← Der.expect? Der.Tag.sequence rest
  let (publicKey, rest) ← Der.expect? Der.Tag.sequence rest
  if rest.isEmpty then some { subject, publicKey } else none

/-- The authority that a certificate makes trusted, if it can be used for that. -/
def authority? (bs : Bytes) : Option Certificate :=
  match parse bs with
  | .ok c => some c
  | .error .unsupportedVersion => parseFirst? bs
  | .error _ => none

end Certificate
end ClusterProbe
