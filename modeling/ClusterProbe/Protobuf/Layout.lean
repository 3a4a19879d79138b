import ClusterProbe.Bytes

/-!
# Message layouts

The shape of a message type as data: its fields in number order, each with a number, a name, a
label and either a scalar kind or the layout of an embedded message. `Layout.Val` is the type of
the values of a layout, so a value always has the fields that its layout declares.
-/
namespace ClusterProbe.Protobuf

/-- The scalar kinds in use. An enumeration keeps any 32-bit number, declared or not, and names the
number that a required field has before it is read. -/
inductive Scalar where
  | int32 | int64 | uint32 | fixed64 | bool | string | bytes
  | enumeration (unset : Int32)
  deriving DecidableEq, Repr

@[reducible] def Scalar.Val : Scalar → Type
  | .int32 => Int32
  | .int64 => Int64
  | .uint32 => UInt32
  | .fixed64 => UInt64
  | .bool => Bool
  | .string => String
  | .bytes => Bytes
  | .enumeration _ => Int32

def Scalar.zero : (k : Scalar) → k.Val
  | .int32 => (0 : Int32)
  | .int64 => (0 : Int64)
  | .uint32 => (0 : UInt32)
  | .fixed64 => (0 : UInt64)
  | .bool => false
  | .string => ""
  | .bytes => ([] : List UInt8)
  | .enumeration unset => unset

/-- A required field is always there, an optional one may be absent, a repeated one is a list. -/
inductive Label where
  | required | optional | repeated
  deriving DecidableEq, Repr

namespace Label

@[reducible] def Of : Label → Type → Type
  | required, α => α
  | optional, α => Option α
  | repeated, α => List α

variable {α : Type}

/-- A field before anything was read for it. -/
def initial (zero : α) : (l : Label) → l.Of α
  | required => zero
  | optional => none
  | repeated => []

/-- The occurrences that a field is written as. -/
def occurrences : (l : Label) → l.Of α → List α
  | required, a => [a]
  | optional, o => o.toList
  | repeated, as => as

/-- Takes one more occurrence: the last one counts, or it is one more element. -/
def add : (l : Label) → l.Of α → α → l.Of α
  | required, _, a => a
  | optional, _, a => some a
  | repeated, as, a => as ++ [a]

/-- The value that the next occurrence of an embedded message merges into. -/
def target (zero : α) : (l : Label) → l.Of α → α
  | required, a => a
  | optional, o => o.getD zero
  | repeated, _ => zero

end Label

/-- The fields of a message type, in number order. -/
inductive Layout where
  | done
  | scalar (number : Nat) (name : String) (label : Label) (kind : Scalar) (rest : Layout)
  | message (number : Nat) (name : String) (label : Label) (type : String) (inner rest : Layout)
  deriving Repr

namespace Layout

@[reducible] def Val : Layout → Type
  | done => Unit
  | scalar _ _ label kind rest => label.Of kind.Val × rest.Val
  | message _ _ label _ inner rest => label.Of inner.Val × rest.Val

def zero : (s : Layout) → s.Val
  | done => ()
  | scalar _ _ label kind rest => (label.initial kind.zero, rest.zero)
  | message _ _ label _ inner rest => (label.initial inner.zero, rest.zero)

def numbers : Layout → List Nat
  | done => []
  | scalar number _ _ _ rest => number :: rest.numbers
  | message number _ _ _ _ rest => number :: rest.numbers

end Layout
end ClusterProbe.Protobuf
