import ClusterProbe.Protobuf.Varint

/-!
# Field keys

Every field starts with a key: its number and the wire type that says how long it is.
-/
namespace ClusterProbe.Protobuf

inductive WireType where
  | varint | sixtyFourBit | lengthDelimited | startGroup | endGroup | thirtyTwoBit
  deriving DecidableEq, Repr

namespace WireType

def code : WireType → Nat
  | varint => 0
  | sixtyFourBit => 1
  | lengthDelimited => 2
  | startGroup => 3
  | endGroup => 4
  | thirtyTwoBit => 5

def ofCode? : Nat → Option WireType
  | 0 => some varint
  | 1 => some sixtyFourBit
  | 2 => some lengthDelimited
  | 3 => some startGroup
  | 4 => some endGroup
  | 5 => some thirtyTwoBit
  | _ => none

def name : WireType → String
  | varint => "Varint"
  | sixtyFourBit => "SixtyFourBit"
  | lengthDelimited => "LengthDelimited"
  | startGroup => "StartGroup"
  | endGroup => "EndGroup"
  | thirtyTwoBit => "ThirtyTwoBit"

end WireType

inductive DecodeCause where
  | invalidVarint
  | invalidKey (key : Nat)
  | invalidWireType (code : Nat)
  | invalidFieldNumber
  | unexpectedWireType (actual expected : WireType)
  | underflow
  | delimitedLengthExceeded
  | notUtf8
  | unexpectedEndGroup
  | tooDeep
  deriving DecidableEq, Repr

def DecodeCause.description : DecodeCause → String
  | invalidVarint => "invalid varint"
  | invalidKey key => s!"invalid key value: {key}"
  | invalidWireType code => s!"invalid wire type value: {code}"
  | invalidFieldNumber => "invalid tag value: 0"
  | unexpectedWireType actual expected =>
    s!"invalid wire type: {actual.name} (expected {expected.name})"
  | underflow => "buffer underflow"
  | delimitedLengthExceeded => "delimited length exceeded"
  | notUtf8 => "invalid string value: data is not UTF-8 encoded"
  | unexpectedEndGroup => "unexpected end group tag"
  | tooDeep => "recursion limit reached"

/-- A cause with the fields it was found in, the innermost first, each as the message type and the
field name. -/
structure DecodeError where
  cause : DecodeCause
  path : List (String × String) := []
  deriving DecidableEq, Repr

namespace DecodeError

def message (e : DecodeError) : String :=
  "failed to decode Protobuf message: " ++
    String.join (e.path.map fun (type, field) => s!"{type}.{field}: ") ++ e.cause.description

/-- The same error, one level further out. -/
def within (type field : String) (e : DecodeError) : DecodeError :=
  { e with path := e.path ++ [(type, field)] }

end DecodeError

structure Key where
  number : Nat
  wireType : WireType
  deriving DecidableEq, Repr

namespace Key

def encode (k : Key) : Bytes :=
  encodeVarint (k.number * 8 + k.wireType.code)

/-- A key is below 2^32; then its wire type and then its field number are looked at. -/
def decode (bs : Bytes) : Except DecodeCause (Key × Bytes) :=
  match decodeVarint bs with
  | none => .error .invalidVarint
  | some (key, rest) =>
    if Nat.pow 2 32 ≤ key then .error (.invalidKey key)
    else match WireType.ofCode? (key % 8) with
      | none => .error (.invalidWireType (key % 8))
      | some wireType =>
        if key / 8 = 0 then .error .invalidFieldNumber else .ok (⟨key / 8, wireType⟩, rest)

end Key
end ClusterProbe.Protobuf
