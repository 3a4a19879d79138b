import ClusterProbe.Proofs.Protobuf.RoundTrip

/-!
# Fields without a layout

What any reader of the format can tell of a byte string, whatever the message: a row of fields, each
with a number and a payload whose wire type says how long it is. A number may be spelled as a varint
in more ways than one; all of them are read as the number, and the field that they stand in is
skipped as a whole.
-/
namespace ClusterProbe.Protobuf

/-! ## Fields -/

/-- What a field carries, as far as its wire type tells. -/
inductive Payload where
  | varint (n : Nat)
  | sixtyFourBit (word : Bytes)
  | lengthDelimited (content : Bytes)
  | thirtyTwoBit (word : Bytes)
  deriving DecidableEq, Repr

structure WireField where
  number : Nat
  payload : Payload
  deriving DecidableEq, Repr

namespace Payload

def wireType : Payload → WireType
  | varint _ => .varint
  | sixtyFourBit _ => .sixtyFourBit
  | lengthDelimited _ => .lengthDelimited
  | thirtyTwoBit _ => .thirtyTwoBit

/-- The bytes are a payload of this content. -/
def IsWritten : Payload → Bytes → Prop
  | varint n, bs => IsVarint n bs
  | sixtyFourBit word, bs => bs = word ∧ word.length = 8
  | lengthDelimited content, bs =>
    ∃ length, bs = length ++ content ∧ IsVarint content.length length
  | thirtyTwoBit word, bs => bs = word ∧ word.length = 4

/-- Reads a payload of this wire type; groups have none. -/
def read : WireType → Bytes → Except DecodeCause (Payload × Bytes)
  | .varint, bs => do let (n, rest) ← takeVarint bs; .ok (.varint n, rest)
  | .sixtyFourBit, bs => do let (word, rest) ← takeExact 8 bs; .ok (.sixtyFourBit word, rest)
  | .lengthDelimited, bs => do
    let (content, rest) ← takeDelimited bs
    .ok (.lengthDelimited content, rest)
  | .thirtyTwoBit, bs => do let (word, rest) ← takeExact 4 bs; .ok (.thirtyTwoBit word, rest)
  | .startGroup, _ | .endGroup, _ => .error .unexpectedEndGroup

variable {p : Payload} {bs : Bytes}

theorem takeDelimited_written {content length : Bytes} (h : IsVarint content.length length)
    (rest : Bytes) : takeDelimited (length ++ content ++ rest) = .ok (content, rest) := by
  rw [takeDelimited, List.append_assoc, h.takeVarint_eq]
  exact takeExact_length content rest

theorem read_written (h : p.IsWritten bs) (rest : Bytes) :
    read p.wireType (bs ++ rest) = .ok (p, rest) := by
  cases p with
  | varint n =>
    rw [wireType, read, IsVarint.takeVarint_eq h rest]
    rfl
  | sixtyFourBit word =>
    obtain ⟨rfl, hlength⟩ := h
    rw [wireType, read, ← hlength, takeExact_length]
    rfl
  | lengthDelimited content =>
    obtain ⟨length, rfl, hlength⟩ := h
    rw [wireType, read, takeDelimited_written hlength rest]
    rfl
  | thirtyTwoBit word =>
    obtain ⟨rfl, hlength⟩ := h
    rw [wireType, read, ← hlength, takeExact_length]
    rfl

/-- Skipping takes the payload and nothing else. -/
theorem skipField_written (h : p.IsWritten bs) (number budget : Nat) (rest : Bytes) :
    skipField (budget + 1) ⟨number, p.wireType⟩ (bs ++ rest) = .ok rest := by
  cases p with
  | varint n =>
    simp only [wireType, skipField]
    rw [IsVarint.takeVarint_eq h rest]
    rfl
  | sixtyFourBit word =>
    obtain ⟨rfl, hlength⟩ := h
    simp only [wireType, skipField]
    rw [← hlength, takeExact_length]
    rfl
  | lengthDelimited content =>
    obtain ⟨length, rfl, hlength⟩ := h
    simp only [wireType, skipField]
    rw [takeDelimited_written hlength rest]
    rfl
  | thirtyTwoBit word =>
    obtain ⟨rfl, hlength⟩ := h
    simp only [wireType, skipField]
    rw [← hlength, takeExact_length]
    rfl

end Payload

namespace WireField

def key (f : WireField) : Key := ⟨f.number, f.payload.wireType⟩

/-- The bytes are this field: its key and then its payload, with a number that fits into a key. -/
def IsWritten (f : WireField) (bs : Bytes) : Prop :=
  0 < f.number ∧ f.number < 2 ^ 29 ∧ ∃ key payload, bs = key ++ payload ∧
    IsVarint (f.number * 8 + f.payload.wireType.code) key ∧ f.payload.IsWritten payload

/-- Reads one field without knowing what it is for. -/
def read (bs : Bytes) : Except DecodeCause (WireField × Bytes) := do
  let (key, bs) ← Key.decode bs
  let (payload, bs) ← Payload.read key.wireType bs
  .ok (⟨key.number, payload⟩, bs)

variable {f : WireField} {bs : Bytes}

theorem IsWritten.ne_nil (h : f.IsWritten bs) : bs ≠ [] := by
  obtain ⟨-, -, key, payload, rfl, hkey, -⟩ := h
  exact List.append_ne_nil_of_left_ne_nil hkey.spells.ne_nil _

theorem isWritten_append {number : Nat} {payload : Payload} (hpos : 0 < number)
    (hlt : number < 2 ^ 29) (h : payload.IsWritten bs) :
    IsWritten ⟨number, payload⟩ (Key.encode ⟨number, payload.wireType⟩ ++ bs) := by
  have hcode := payload.wireType.code_lt
  exact ⟨hpos, hlt, _, _, rfl, isVarint_encodeVarint (by dsimp only; omega), h⟩

theorem IsWritten.read_eq (h : f.IsWritten bs) (rest : Bytes) :
    read (bs ++ rest) = .ok (f, rest) := by
  obtain ⟨hpos, hlt, key, payload, rfl, hkey, hpayload⟩ := h
  rw [read, List.append_assoc, Key.decode_isVarint (k := f.key) hkey _ hpos hlt]
  change (Payload.read f.payload.wireType (payload ++ rest) >>= fun r => _) = _
  rw [Payload.read_written hpayload rest]
  rfl

/-- A message that does not declare the number is left as it was. -/
theorem IsWritten.mergeField_eq (h : f.IsWritten bs) {s : Layout} (hnew : f.number ∉ s.numbers)
    (type : String) {budget : Nat} (hbudget : 1 ≤ budget) (v : s.Val) (rest : Bytes) :
    s.mergeField type budget v (bs ++ rest) = .ok (v, rest) := by
  obtain ⟨hpos, hlt, key, payload, rfl, hkey, hpayload⟩ := h
  obtain ⟨budget, rfl⟩ : ∃ fewer, budget = fewer + 1 := ⟨budget - 1, by omega⟩
  have hskip : skipField (budget + 1) f.key (payload ++ rest) = .ok rest :=
    Payload.skipField_written hpayload f.number budget rest
  rw [Layout.mergeField, List.append_assoc, Key.decode_isVarint (k := f.key) hkey _ hpos hlt]
  have hunknown : s.mergeKnown type (budget + 1) f.key v (payload ++ rest) = none :=
    Layout.mergeKnown_eq_none hnew ..
  simp only [Except.mapError, bind, Except.bind, hunknown, hskip]

end WireField

/-! ## Rows of fields -/

/-- The bytes are these fields, one after the other. -/
inductive FieldsWritten : List WireField → Bytes → Prop
  | nil : FieldsWritten [] []
  | cons {f : WireField} {fs : List WireField} {b bs : Bytes} (hf : f.IsWritten b)
      (hmore : FieldsWritten fs bs) : FieldsWritten (f :: fs) (b ++ bs)

/-- Reads a whole byte string as a row of fields. -/
def readFields (bs : Bytes) : Except DecodeCause (List WireField) :=
  (repeatAbove .underflow
    (fun fs bs => do
      let (f, bs) ← WireField.read bs
      .ok (fs ++ [f], bs))
    0 bs.length [] bs).map (·.1)

namespace FieldsWritten

variable {fs fs' : List WireField} {bs bs' : Bytes}

theorem append (h : FieldsWritten fs bs) (h' : FieldsWritten fs' bs') :
    FieldsWritten (fs ++ fs') (bs ++ bs') := by
  induction h with
  | nil => exact h'
  | cons hf _ ih =>
    rw [List.cons_append, List.append_assoc]
    exact .cons hf ih

theorem map_flatMap {α : Type} {field : α → WireField} {write : α → Bytes} {as : List α}
    (bound : Nat) (hlen : (as.flatMap write).length < bound)
    (h : ∀ a, (write a).length < bound → (field a).IsWritten (write a)) :
    FieldsWritten (as.map field) (as.flatMap write) := by
  induction as with
  | nil => exact .nil
  | cons a as ih =>
    rw [List.flatMap_cons, List.length_append] at hlen
    exact .cons (h a (by omega)) (ih (by omega))

/-- A step that takes in one field takes in the row. -/
theorem readsOn {ε σ : Type} {step : σ → Bytes → Except ε (σ × Bytes)} (h : FieldsWritten fs bs)
    (take : σ → WireField → σ)
    (hstep : ∀ s f b rest, f ∈ fs → f.IsWritten b → step s (b ++ rest) = .ok (take s f, rest))
    (s : σ) (rest : Bytes) : ReadsOn step s (bs ++ rest) (fs.foldl take s) rest := by
  induction h generalizing s with
  | nil => exact .refl s rest
  | @cons f fs b bs hf _ ih =>
    have htail := ih (fun s f b rest hmem => hstep s f b rest (List.mem_cons_of_mem _ hmem))
      (take s f)
    rw [List.append_assoc]
    refine .more (hstep s f b _ List.mem_cons_self hf) ?_ htail
    have hpos := List.length_pos_iff.2 hf.ne_nil
    simp only [List.length_append]
    omega

theorem readFields_eq (h : FieldsWritten fs bs) : readFields bs = .ok fs := by
  let step := fun fs bs => WireField.read bs >>= fun r => Except.ok (fs ++ [r.1], r.2)
  have hstep (s : List WireField) (f : WireField) (b rest : Bytes) (hf : f.IsWritten b) :
      step s (b ++ rest) = .ok (s ++ [f], rest) := by
    simp only [step]
    rw [hf.read_eq rest]
    rfl
  have hread := h.readsOn (fun fs f => fs ++ [f]) (fun s f b rest _ => hstep s f b rest) [] []
  have hall : fs.foldl (fun fs f => fs ++ [f]) [] = fs := by
    rw [List.foldl_append_eq_append]
    exact List.flatMap_singleton' fs
  rw [List.append_nil, hall] at hread
  exact congrArg (Except.map (·.1)) (hread.repeatAbove_eq .underflow le_rfl)

end FieldsWritten

/-! ## What an encoding is made of -/

/-- Numbers of any kind stand modulo 2^64, so that a negative one has its top bits set. -/
def Scalar.payload : (k : Scalar) → k.Val → Payload
  | .int32, n | .enumeration _, n => .varint (Int32.toInt n % 2 ^ 64).toNat
  | .int64, n => .varint (Int64.toInt n % 2 ^ 64).toNat
  | .uint32, n => .varint (UInt32.toNat n)
  | .fixed64, n => .sixtyFourBit (Bytes.littleEndian 8 (UInt64.toNat n))
  | .bool, b => .varint (if b then 1 else 0)
  | .string, s => .lengthDelimited (Utf8.encode s)
  | .bytes, bs => .lengthDelimited bs

/-- One field for each occurrence, with the number that the layout declares. -/
def Layout.wireFields : (s : Layout) → s.Val → List WireField
  | done, _ => []
  | scalar number _ label kind rest, (v, vs) =>
    (label.occurrences v).map (fun a => ⟨number, kind.payload a⟩) ++ rest.wireFields vs
  | message number _ label _ inner rest, (v, vs) =>
    (label.occurrences v).map (fun a => ⟨number, .lengthDelimited (inner.encode a)⟩) ++
      rest.wireFields vs

theorem toNat_toUInt64 (n : Int64) : n.toUInt64.toNat = (n.toInt % 2 ^ 64).toNat := by
  have hword : n.toUInt64.toNat = (BitVec.ofInt 64 n.toBitVec.toInt).toNat :=
    congrArg BitVec.toNat (BitVec.ofInt_toInt (x := n.toBitVec)).symm
  rw [hword, BitVec.toNat_ofInt]
  rfl

namespace Scalar

theorem wireType_payload (k : Scalar) (a : k.Val) : (k.payload a).wireType = k.wireType := by
  cases k <;> rfl

theorem isWritten_payload (k : Scalar) (a : k.Val) (hlen : (k.encode a).length < 2 ^ 64) :
    (k.payload a).IsWritten (k.encode a) := by
  have hsigned (n : Int64) : IsVarint (n.toInt % 2 ^ 64).toNat (encodeVarint n.toUInt64.toNat) := by
    rw [← toNat_toUInt64]
    exact isVarint_encodeVarint (UInt64.toNat_lt _)
  cases k with
  | int32 | enumeration =>
    have hwide := hsigned (Int32.toInt64 a)
    rwa [Int32.toInt_toInt64] at hwide
  | int64 => exact hsigned a
  | uint32 => exact isVarint_encodeVarint ((UInt32.toNat_lt _).trans (by decide))
  | fixed64 => exact ⟨rfl, length_littleEndian 8 _⟩
  | bool =>
    cases a
    · exact isVarint_singleton (b := 0) (by decide)
    · exact isVarint_singleton (b := 1) (by decide)
  | string | bytes =>
    exact ⟨_, rfl, isVarint_encodeVarint ((length_le_delimited _).trans_lt hlen)⟩

end Scalar

namespace Layout

/-- An encoding is a row of the fields that its layout declares, by number, wire type and label. -/
theorem fieldsWritten_encode {s : Layout} (hs : s.Sound) (v : s.Val)
    (hlen : (s.encode v).length < 2 ^ 64) : FieldsWritten (s.wireFields v) (s.encode v) := by
  induction s with
  | done => exact .nil
  | scalar number name label kind rest ih =>
    obtain ⟨hpos, hlt, -, hrest⟩ := hs
    rw [encode, List.length_append] at hlen
    refine .append (.map_flatMap (2 ^ 64) (by omega) fun a hfits => ?_)
      (ih hrest v.2 (by omega))
    rw [List.length_append] at hfits
    rw [← kind.wireType_payload a]
    exact WireField.isWritten_append hpos hlt (kind.isWritten_payload a (by omega))
  | message number name label type inner rest _ ih =>
    obtain ⟨hpos, hlt, -, -, hrest⟩ := hs
    rw [encode, List.length_append] at hlen
    refine .append (.map_flatMap (2 ^ 64) (by omega) fun a hfits => ?_)
      (ih hrest v.2 (by omega))
    have hcontent := length_le_delimited (inner.encode a)
    rw [List.length_append] at hfits
    exact WireField.isWritten_append hpos hlt
      ⟨_, rfl, isVarint_encodeVarint (by omega)⟩

end Layout

/-! ## Fields that a message does not declare -/

/-- A row of fields, none of them with one of these numbers. -/
def Foreign (numbers : List Nat) (bs : Bytes) : Prop :=
  ∃ fs, FieldsWritten fs bs ∧ ∀ f ∈ fs, f.number ∉ numbers

/-- One level below a message is all that skipping such fields in it needs. -/
theorem skips_foreign : Layout.Skips Foreign 1 := by
  rintro s type budget hbudget v bs rest ⟨fs, hfs, hnew⟩
  have hread := hfs.readsOn (fun v _ => v)
    (fun v f _ rest hmem hf => hf.mergeField_eq (hnew f hmem) type hbudget v rest) v rest
  rwa [List.foldl_fixed] at hread

namespace Message

variable {M : Type} [Message M]

/-- Decoding looks past such fields, wherever they stand between the fields of a message. -/
theorem decode_spaced (hs : (layout M).Sound) (hdepth : (layout M).depth + 1 ≤ nestingBudget)
    (m : M) {bs : Bytes}
    (hbs : (layout M).Spaced Foreign (Foreign (layout M).numbers) (fields m) bs)
    (hlen : bs.length < 2 ^ 64) : decode M bs = .ok m := by
  have hfields : (layout M).decode (name M) bs = .ok (fields m) :=
    Layout.decode_spaced hs hdepth skips_foreign (name M) (fields m) hbs hlen
  rw [decode, hfields]
  exact congrArg Except.ok (build_fields m)

end Message
end ClusterProbe.Protobuf
