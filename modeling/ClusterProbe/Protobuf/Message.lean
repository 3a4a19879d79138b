import ClusterProbe.Protobuf.Decoder
import ClusterProbe.Protobuf.Encoder

/-!
# Message types

A message type is a structure whose values correspond one to one to the values of a layout.
`encode` and `decode` go through that layout.
-/
namespace ClusterProbe.Protobuf

class Message (M : Type) where
  /-- The name that decoding errors give. -/
  name : String
  layout : Layout
  fields : M → layout.Val
  build : layout.Val → M
  build_fields : ∀ m, build (fields m) = m
  fields_build : ∀ v, fields (build v) = v

theorem Layout.eq_of_done (v : Layout.done.Val) : () = v := rfl

/-- A field that holds messages of type `M`. -/
@[reducible] def Layout.embed (number : Nat) (name : String) (label : Label) (M : Type) [Message M]
    (rest : Layout) : Layout :=
  .message number name label (Message.name M) (Message.layout M) rest

namespace Message

variable {M : Type} [Message M]

attribute [simp] build_fields fields_build

@[simp] theorem build_comp_fields : (build : _ → M) ∘ fields = id :=
  funext build_fields

@[simp] theorem fields_comp_build : (fields : M → _) ∘ build = id :=
  funext fields_build

def empty (M : Type) [Message M] : M :=
  build (layout M).zero

def encode (m : M) : Bytes :=
  (layout M).encode (fields m)

def decode (M : Type) [Message M] (bs : Bytes) : Except DecodeError M :=
  ((layout M).decode (name M) bs).map build

end Message
end ClusterProbe.Protobuf
