import ClusterProbe.Protobuf.Key
import ClusterProbe.Protobuf.Layout
import ClusterProbe.Protobuf.Encoder
import ClusterProbe.Text.Utf8

/-!
# Reading messages

A message is read field by field and merged into the value read so far. A field may run past the
end of the message it stands in as long as the outermost buffer holds it; the enclosing message
notices afterwards. Unknown fields are skipped, groups included, within a budget of nesting levels.
-/
namespace ClusterProbe.Protobuf

/-- How deeply messages and groups may nest. -/
def nestingBudget : Nat := 100

def take? (n : Nat) (bs : Bytes) : Option (Bytes × Bytes) :=
  if n ≤ bs.length then some (bs.take n, bs.drop n) else none

def takeExact (n : Nat) (bs : Bytes) : Except DecodeCause (Bytes × Bytes) :=
  match take? n bs with
  | some r => .ok r
  | none => .error .underflow

def takeVarint (bs : Bytes) : Except DecodeCause (Nat × Bytes) :=
  match decodeVarint bs with
  | some r => .ok r
  | none => .error .invalidVarint

def takeDelimited (bs : Bytes) : Except DecodeCause (Bytes × Bytes) := do
  let (n, rest) ← takeVarint bs
  takeExact n rest

/-- Reads fields until the group with this number ends. -/
def skipGroup (skip : Key → Bytes → Except DecodeCause Bytes) (number : Nat) :
    (fuel : Nat) → Bytes → Except DecodeCause Bytes
  | 0, _ => .error .invalidVarint
  | fuel + 1, bs => do
    let (key, rest) ← Key.decode bs
    if key.wireType = .endGroup then
      if key.number = number then .ok rest else .error .unexpectedEndGroup
    else skipGroup skip number fuel (← skip key rest)

def skipField : (budget : Nat) → Key → Bytes → Except DecodeCause Bytes
  | 0, _, _ => .error .tooDeep
  | budget + 1, key, bs =>
    match key.wireType with
    | .varint => (takeVarint bs).map (·.2)
    | .thirtyTwoBit => (takeExact 4 bs).map (·.2)
    | .sixtyFourBit => (takeExact 8 bs).map (·.2)
    | .lengthDelimited => (takeDelimited bs).map (·.2)
    | .startGroup => skipGroup (skipField budget) key.number (bs.length + 1) bs
    | .endGroup => .error .unexpectedEndGroup

/-- The payload of one occurrence, once its wire type is known to fit. -/
def Scalar.decode : (k : Scalar) → Bytes → Except DecodeCause (k.Val × Bytes)
  | int32, bs => do let (n, rest) ← takeVarint bs; .ok (Int32.ofNat n, rest)
  | int64, bs => do let (n, rest) ← takeVarint bs; .ok (Int64.ofNat n, rest)
  | uint32, bs => do let (n, rest) ← takeVarint bs; .ok (UInt32.ofNat n, rest)
  | fixed64, bs => do
    let (eight, rest) ← takeExact 8 bs
    .ok (UInt64.ofNat (Bytes.littleEndianNat eight), rest)
  | bool, bs => do let (n, rest) ← takeVarint bs; .ok (n != 0, rest)
  | string, bs => do
    let (content, rest) ← takeDelimited bs
    match Utf8.decode? content with
    | some s => .ok (s, rest)
    | none => .error .notUtf8
  | bytes, bs => takeDelimited bs
  | enumeration _, bs => do let (n, rest) ← takeVarint bs; .ok (Int32.ofNat n, rest)

def checkWireType (actual expected : WireType) : Except DecodeCause Unit :=
  if actual = expected then .ok () else .error (.unexpectedWireType actual expected)

/-- Repeats a step until at most `limit` bytes are left. Every step takes at least one byte, so the
number of bytes bounds the steps. -/
def repeatAbove {ε σ : Type} (stuck : ε) (step : σ → Bytes → Except ε (σ × Bytes)) (limit : Nat) :
    (fuel : Nat) → σ → Bytes → Except ε (σ × Bytes)
  | fuel, s, bs =>
    if bs.length ≤ limit then .ok (s, bs)
    else match fuel with
      | 0 => .error stuck
      | fuel + 1 => do
        let (s, rest) ← step s bs
        repeatAbove stuck step limit fuel s rest

/-- A stretch with its length in front, read by repeating a step. -/
def readStretch {ε σ : Type} (fail : DecodeCause → ε) (step : σ → Bytes → Except ε (σ × Bytes))
    (s : σ) (bs : Bytes) : Except ε (σ × Bytes) := do
  let (n, rest) ← (takeVarint bs).mapError fail
  if rest.length < n then .error (fail .underflow)
  else
    let limit := rest.length - n
    let (s, rest) ← repeatAbove (fail .underflow) step limit rest.length s rest
    if rest.length = limit then .ok (s, rest) else .error (fail .delimitedLengthExceeded)

/-- One more element of a packed run. -/
def packedStep (k : Scalar) (as : List k.Val) (bs : Bytes) :
    Except DecodeCause (List k.Val × Bytes) := do
  let (a, rest) ← k.decode bs
  .ok (as ++ [a], rest)

/-- Reads an occurrence of a scalar field; a repeated number may also come as a packed run. -/
def decodeScalarField (label : Label) (k : Scalar) (wireType : WireType) (v : label.Of k.Val)
    (bs : Bytes) : Except DecodeCause (label.Of k.Val × Bytes) :=
  if label = .repeated ∧ k.wireType ≠ .lengthDelimited ∧ wireType = .lengthDelimited then do
    let (as, rest) ← readStretch id (packedStep k) [] bs
    .ok (as.foldl label.add v, rest)
  else do
    checkWireType wireType k.wireType
    let (a, rest) ← k.decode bs
    .ok (label.add v a, rest)

namespace Layout

/-- Merges the field behind a key into a message, if the layout declares its number. -/
def mergeKnown : (s : Layout) → (type : String) → (budget : Nat) → Key → s.Val → Bytes →
    Option (Except DecodeError (s.Val × Bytes))
  | done, _, _, _, _, _ => none
  | scalar number name label kind rest, type, budget, key, (v, vs), bs =>
    if key.number = number then some <|
      match decodeScalarField label kind key.wireType v bs with
      | .ok (v, bs) => .ok ((v, vs), bs)
      | .error cause => .error (DecodeError.within type name ⟨cause, []⟩)
    else (rest.mergeKnown type budget key vs bs).map fun r => r.map fun (vs, bs) => ((v, vs), bs)
  | message number name label innerType inner rest, type, budget, key, (v, vs), bs =>
    if key.number = number then some <|
      let merged : Except DecodeError (inner.Val × Bytes) := do
        (checkWireType key.wireType .lengthDelimited).mapError (⟨·, []⟩)
        if budget = 0 then .error ⟨.tooDeep, []⟩
        else
          readStretch (⟨·, []⟩)
            (fun m bs => do
              let (key, bs) ← (Key.decode bs).mapError (⟨·, []⟩)
              match inner.mergeKnown innerType (budget - 1) key m bs with
              | some r => r
              | none =>
                let bs ← (skipField (budget - 1) key bs).mapError (⟨·, []⟩)
                .ok (m, bs))
            (label.target inner.zero v) bs
      match merged with
      | .ok (a, bs) => .ok ((label.add v a, vs), bs)
      | .error e => .error (e.within type name)
    else (rest.mergeKnown type budget key vs bs).map fun r => r.map fun (vs, bs) => ((v, vs), bs)

def mergeField (s : Layout) (type : String) (budget : Nat) (m : s.Val) (bs : Bytes) :
    Except DecodeError (s.Val × Bytes) := do
  let (key, bs) ← (Key.decode bs).mapError (⟨·, []⟩)
  match s.mergeKnown type budget key m bs with
  | some r => r
  | none =>
    let bs ← (skipField budget key bs).mapError (⟨·, []⟩)
    .ok (m, bs)

/-- Reads a whole byte string as a message. -/
def decode (s : Layout) (type : String) (bs : Bytes) : Except DecodeError s.Val :=
  (repeatAbove ⟨.underflow, []⟩ (s.mergeField type nestingBudget) 0 bs.length s.zero bs).map (·.1)

end Layout
end ClusterProbe.Protobuf
