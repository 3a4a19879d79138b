import ClusterProbe.Protobuf.Key
import ClusterProbe.Protobuf.Layout
import ClusterProbe.Text.Utf8

/-!
# Writing messages

Fields are written in number order, one key and payload per occurrence. A negative 32-bit number is
written as the 64-bit number of the same value, in ten bytes.
-/
namespace ClusterProbe.Protobuf

def Scalar.wireType : Scalar → WireType
  | int32 | int64 | uint32 | bool | enumeration _ => .varint
  | fixed64 => .sixtyFourBit
  | string | bytes => .lengthDelimited

def Scalar.encode : (k : Scalar) → k.Val → Bytes
  | int32, n => encodeVarint (Int32.toInt64 n).toUInt64.toNat
  | int64, n => encodeVarint (Int64.toUInt64 n).toNat
  | uint32, n => encodeVarint (UInt32.toNat n)
  | fixed64, n => Bytes.littleEndian 8 (UInt64.toNat n)
  | bool, b => [if b then 1 else 0]
  | string, s => delimited (Utf8.encode s)
  | bytes, bs => delimited bs
  | enumeration _, n => encodeVarint (Int32.toInt64 n).toUInt64.toNat

def Layout.encode : (s : Layout) → s.Val → Bytes
  | done, _ => []
  | scalar number _ label kind rest, (v, vs) =>
    (label.occurrences v).flatMap (fun a => Key.encode ⟨number, kind.wireType⟩ ++ kind.encode a) ++
      rest.encode vs
  | message number _ label _ inner rest, (v, vs) =>
    (label.occurrences v).flatMap
        (fun a => Key.encode ⟨number, .lengthDelimited⟩ ++ delimited (inner.encode a)) ++
      rest.encode vs

end ClusterProbe.Protobuf
