import ClusterProbe.Tls.Der

/-!
# The structure of a certificate

A first look at a client certificate, before it is used: whether its parts are there, in order. The
first thing that is wrong decides what is said.
-/
namespace ClusterProbe.Certificate

inductive StructureError where
  | incomplete (needed : Nat)
  | unexpectedTag (expected actual : Nat)
  | indefiniteLength
  | invalidLength
  /-- A part has not the form that it should have. -/
  | invalidPart (name : String)
  deriving DecidableEq, Repr

namespace StructureError

def message : StructureError → String
  | incomplete needed => s!"Parsing requires {needed} bytes/chars"
  | unexpectedTag expected actual => "Parsing Error: Der(UnexpectedTag \x7b " ++
      s!"expected: Some(Tag({expected})), actual: Tag({actual}) \x7d)"
  | indefiniteLength => "Parsing Error: Der(DerConstraintFailed(IndefiniteLength))"
  | invalidLength => "Parsing Error: Der(InvalidLength)"
  | invalidPart name => s!"Parsing Error: {name}"

end StructureError

def takeBytes (n : Nat) (bs : Bytes) : Except StructureError (Bytes × Bytes) :=
  if n ≤ bs.length then .ok (bs.take n, bs.drop n) else .error (.incomplete (n - bs.length))

/-- A value with the number in its tag, and what follows it. -/
def element (bs : Bytes) : Except StructureError (Nat × Bytes × Bytes) := do
  let (tag, bs) ← takeBytes 1 bs
  let (lead, bs) ← takeBytes 1 bs
  let first := Bytes.bigEndianNat lead
  let (n, bs) ←
    if first < 0x80 then pure (first, bs)
    else if first = 0x80 then throw .indefiniteLength
    else if first = 0xFF then throw .invalidLength
    else do
      let (size, bs) ← takeBytes (first - 0x80) bs
      pure (Bytes.bigEndianNat size, bs)
  let (content, rest) ← takeBytes n bs
  return (Bytes.bigEndianNat tag % 32, content, rest)

def sequenceNumber : Nat := 16

def sequence (bs : Bytes) : Except StructureError (Bytes × Bytes) := do
  let (number, content, rest) ← element bs
  if number = sequenceNumber then return (content, rest)
  else throw (.unexpectedTag sequenceNumber number)

/-- A part with a number in its tag, and a name by which its absence is told. -/
def part (number : Nat) (name : String) (bs : Bytes) : Except StructureError Bytes :=
  match element bs with
  | .ok (n, _, rest) => if n = number then .ok rest else .error (.invalidPart name)
  | .error _ => .error (.invalidPart name)

/-- The parts of a certificate in order. The version may be missing. -/
def checkStructure (bs : Bytes) : Except StructureError Unit := do
  let (content, _) ← sequence bs
  let (signed, rest) ← sequence content
  let signed := Der.skip (Der.Tag.context 0) signed
  let signed ← part 2 "InvalidSerial" signed
  let signed ← part sequenceNumber "InvalidAlgorithmIdentifier" signed
  let signed ← part sequenceNumber "InvalidX509Name" signed
  let signed ← part sequenceNumber "InvalidDate" signed
  let signed ← part sequenceNumber "InvalidX509Name" signed
  let _ ← part sequenceNumber "InvalidSPKI" signed
  let rest ← part sequenceNumber "InvalidAlgorithmIdentifier" rest
  let _ ← part 3 "InvalidSignatureValue" rest

end ClusterProbe.Certificate
