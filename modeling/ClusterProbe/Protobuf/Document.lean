import ClusterProbe.Decimal
import ClusterProbe.Document
import ClusterProbe.Protobuf.Message

/-!
# Messages as documents

A message as a record of its fields by name. Numbers of 64 bits are decimal texts, so that no reader
loses digits, and byte strings are hexadecimal texts. Read back, a field that is missing is absent,
empty or zero.
-/
namespace ClusterProbe.Protobuf

namespace Scalar

def document : (k : Scalar) → k.Val → Document
  | int32, n | enumeration _, n => .int (Int32.toInt n)
  | int64, n => .text (toString (Int64.toInt n))
  | uint32, n => .int (UInt32.toNat n)
  | fixed64, n => .text (toString (UInt64.toNat n))
  | bool, b => .bool b
  | string, s => .text s
  | bytes, bs => .text (Bytes.hexText bs)

def ofDocument? : (k : Scalar) → Document → Option k.Val
  | int32, .int n | enumeration _, .int n => some (Int32.ofInt n)
  | int64, .text s =>
    match s.toList with
    | '-' :: cs => (Decimal.digitsValue? cs).map fun n => Int64.ofInt (-n)
    | cs => (Decimal.digitsValue? cs).map fun n => Int64.ofInt n
  | uint32, .int n => some (UInt32.ofNat n.toNat)
  | fixed64, .text s => (Decimal.digitsValue? s.toList).map UInt64.ofNat
  | bool, .bool b => some b
  | string, .text s => some s
  | bytes, .text s => Bytes.ofHex? s.toList
  | _, _ => none

/-- What stands for a required field that is missing. -/
def missing : (k : Scalar) → k.Val
  | enumeration _ => (0 : Int32)
  | k => k.zero

end Scalar

namespace Label

variable {α : Type}

def document (f : α → Document) : (l : Label) → l.Of α → Document
  | required, a => f a
  | optional, o => Document.ofOption f o
  | repeated, as => .list (as.map f)

def ofDocument? (missing : α) (f : Document → Option α) (d : Document) :
    (l : Label) → Option (l.Of α)
  | required =>
    match d with
    | .null => some missing
    | d => f d
  | optional =>
    match d with
    | .null => some none
    | d => (f d).map some
  | repeated =>
    match d with
    | .null => some []
    | .list ds => ds.mapM f
    | _ => none

end Label

namespace Layout

def documents : (s : Layout) → s.Val → List (String × Document)
  | done, _ => []
  | scalar _ name l k rest, (v, vs) => (name, l.document k.document v) :: rest.documents vs
  | message _ name l _ inner rest, (v, vs) =>
    (name, l.document (fun a => .record (inner.documents a)) v) :: rest.documents vs

def ofDocument? : (s : Layout) → Document → Option s.Val
  | done, _ => some ()
  | scalar _ name l k rest, d => do
    return (← l.ofDocument? k.missing k.ofDocument? (d.field name), ← rest.ofDocument? d)
  | message _ name l _ inner rest, d => do
    return (← l.ofDocument? inner.zero inner.ofDocument? (d.field name), ← rest.ofDocument? d)

end Layout

namespace Message

variable {M : Type} [Message M]

def document (m : M) : Document :=
  .record ((layout M).documents (fields m))

def ofDocument? (M : Type) [Message M] (d : Document) : Option M :=
  ((layout M).ofDocument? d).map build

end Message
end ClusterProbe.Protobuf
