import ClusterProbe.Curve.Edwards
import ClusterProbe.Curve.Weierstrass
import ClusterProbe.Tls.Der
import ClusterProbe.Tls.Pem

/-!
# Private keys

Keys for RSA, for the two Weierstrass curves and for the Edwards curve, in the forms that a PEM
section may hold. A key is read together with its public half, in the form in which a certificate
holds that; a key that is not consistent in itself is not read.
-/
namespace ClusterProbe.PrivateKey

namespace ObjectId

def rsa : Bytes := [0x2A, 0x86, 0x48, 0x86, 0xF7, 0x0D, 0x01, 0x01, 0x01]
def ellipticCurve : Bytes := [0x2A, 0x86, 0x48, 0xCE, 0x3D, 0x02, 0x01]
def p256 : Bytes := [0x2A, 0x86, 0x48, 0xCE, 0x3D, 0x03, 0x01, 0x07]
def p384 : Bytes := [0x2B, 0x81, 0x04, 0x00, 0x22]
def edwards : Bytes := [0x2B, 0x65, 0x70]

end ObjectId

def objectId (id : Bytes) : Bytes :=
  Der.encode Der.Tag.objectId id

def rsaAlgorithm : Bytes :=
  objectId ObjectId.rsa ++ Der.encode Der.Tag.null []

def curveAlgorithm (curveId : Bytes) : Bytes :=
  objectId ObjectId.ellipticCurve ++ objectId curveId

def edwardsAlgorithm : Bytes :=
  objectId ObjectId.edwards

/-- A public key with its algorithm, as it stands in a certificate. -/
def publicKeyInfo (algorithm key : Bytes) : Bytes :=
  Der.encode Der.Tag.sequence algorithm ++ Der.encodeBits key

/-- Numbers one after the other, which nothing follows. -/
def positives? : (count : Nat) → Bytes → Option (List Nat)
  | 0, bs => if bs.isEmpty then some [] else none
  | count + 1, bs => do
    let (n, rest) ← Der.positive? bs
    return n :: (← positives? count rest)

/-- The sizes and the relations that the numbers of an RSA key have to have: `n` is the product of
`p` and `q`, which have half its size, and `coefficient` is the inverse of `q` modulo `p`. -/
def rsaIsConsistent (n e d p q dp dq coefficient : Nat) : Bool :=
  let bits := n.log2 + 1
  let half := bits / 2
  2048 ≤ bits && bits ≤ 4096 && half % 512 == 0 && e % 2 == 1 && 65537 ≤ e && e < Nat.pow 2 33 &&
    p.log2 + 1 == half && q.log2 + 1 == half && p * q == n &&
    Nat.pow 2 half ≤ d && d < n && d % 2 == 1 &&
    dp < p && dp % 2 == 1 && dq < q && dq % 2 == 1 && coefficient < p && coefficient * q % p == 1

/-- An RSA key: version zero, then the eight numbers. -/
def rsa? (bs : Bytes) : Option Bytes := do
  let content ← Der.whole? Der.Tag.sequence bs
  let (version, rest) ← Der.small? content
  match ← positives? 8 rest with
  | [n, e, d, p, q, dp, dq, coefficient] =>
    if version = 0 ∧ rsaIsConsistent n e d p q dp dq coefficient then
      some (publicKeyInfo rsaAlgorithm
        (Der.encode Der.Tag.sequence (Der.encodePositive n ++ Der.encodePositive e)))
    else none
  | _ => none

/-- A key on a Weierstrass curve: version one, the private number, perhaps the curve, and the
public point, which has to belong to the number. -/
def onCurve? (curve : Curve.Weierstrass) (curveId : Bytes) (bs : Bytes) : Option Bytes := do
  let content ← Der.whole? Der.Tag.sequence bs
  let (version, rest) ← Der.small? content
  let (secret, rest) ← Der.expect? Der.Tag.octetString rest
  let rest ← match Der.expect? (Der.Tag.context 0) rest with
    | some (id, rest) => if id = objectId curveId then some rest else none
    | none => some rest
  let (point, extra) ← Der.bytesOfBits? (← Der.whole? (Der.Tag.context 1) rest)
  if version = 1 ∧ extra.isEmpty ∧ secret.length = curve.size ∧
      curve.publicPoint? (Bytes.bigEndianNat secret) = some point then
    some (publicKeyInfo (curveAlgorithm curveId) point)
  else none

/-- A key on the Edwards curve: its seed, and the public key if it is given. -/
def onEdwards? (key : Bytes) (publicKey : Option Bytes) : Option Bytes := do
  let seed ← Der.whole? Der.Tag.octetString key
  let derived := Curve.Edwards.publicKey seed
  if seed.length = 32 ∧ publicKey.all (· = derived) then
    some (publicKeyInfo edwardsAlgorithm derived)
  else none

/-- The parts of a key that is wrapped with its algorithm: the version, the algorithm, the key, and
the public key, which comes with version one only. -/
def unwrap? (bs : Bytes) : Option (Nat × Bytes × Bytes × Option Bytes) := do
  let content ← Der.whole? Der.Tag.sequence bs
  let (version, rest) ← Der.small? content
  let (algorithm, rest) ← Der.expect? Der.Tag.sequence rest
  let (key, rest) ← Der.expect? Der.Tag.octetString rest
  let rest := Der.skip (Der.Tag.context 0) rest
  if version = 0 ∧ rest.isEmpty then some (version, algorithm, key, none)
  else if version = 1 then
    match ← Der.whole? 0x81 rest with
    | 0 :: publicKey => some (version, algorithm, key, some publicKey)
    | _ => none
  else none

def wrapped? (bs : Bytes) : Option Bytes := do
  let (version, algorithm, key, publicKey) ← unwrap? bs
  if algorithm = edwardsAlgorithm then onEdwards? key publicKey
  else if version ≠ 0 then none
  else if algorithm = rsaAlgorithm then rsa? key
  else if algorithm = curveAlgorithm ObjectId.p256 then onCurve? Curve.p256 ObjectId.p256 key
  else if algorithm = curveAlgorithm ObjectId.p384 then onCurve? Curve.p384 ObjectId.p384 key
  else none

/-- The public half of the key in a section, if it can be read. A key without its algorithm is
tried on one curve after the other. -/
def publicHalf? (s : Pem.Section) : Option Bytes :=
  match s.label with
  | .rsaPrivateKey => rsa? s.content
  | .ecPrivateKey => (onCurve? Curve.p256 ObjectId.p256 s.content).or
      (onCurve? Curve.p384 ObjectId.p384 s.content)
  | .privateKey => wrapped? s.content
  | _ => none

end ClusterProbe.PrivateKey
