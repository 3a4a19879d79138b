import Mathlib.Tactic
import ClusterProbe.Protobuf.Decoder
import ClusterProbe.Protobuf.Encoder

/-!
# Scalars written and read back

Every varint below 2^64, in any spelling of at most ten bytes, every key with a declarable field
number and every scalar is read back as it was written, and reading leaves what follows untouched.
-/
namespace ClusterProbe.Protobuf

/-! ## Varints -/

/-- The bytes give the number in groups of seven bits, the lowest first, and only the last byte has
its top bit clear. The last groups may be zero. -/
inductive Spells : Nat → Bytes → Prop
  | last {b : UInt8} (h : b < 128) : Spells b.toNat [b]
  | more {b : UInt8} {n : Nat} {bs : Bytes} (h : ¬ b < 128) (hmore : Spells n bs) :
      Spells (b.toNat % 128 + 128 * n) (b :: bs)

/-- A spelling that the format has room for: ten bytes, and a number of 64 bits. -/
structure IsVarint (n : Nat) (bs : Bytes) : Prop where
  spells : Spells n bs
  length_le : bs.length ≤ 10
  lt : n < 2 ^ 64

theorem Spells.ne_nil {n : Nat} {bs : Bytes} (h : Spells n bs) : bs ≠ [] := by
  cases h with
  | last => exact List.cons_ne_nil _ _
  | more => exact List.cons_ne_nil _ _

theorem isVarint_singleton {b : UInt8} (h : b < 128) : IsVarint b.toNat [b] :=
  ⟨.last h, Nat.le_add_left 1 9, b.toNat_lt.trans (by decide)⟩

theorem readVarint_spells {n : Nat} {bs : Bytes} (h : Spells n bs) (rest : Bytes) (room : Nat)
    (hlength : bs.length ≤ room + 1) (hn : n < 2 ^ (7 * room + 1)) :
    readVarint (room + 1) (bs ++ rest) = some (n, rest) := by
  induction h generalizing room with
  | @last b hb =>
    have hsmall : ¬ (room = 0 ∧ 1 < b) := by
      rintro ⟨rfl, hlarge⟩
      rw [UInt8.lt_iff_toNat_lt] at hlarge
      exact absurd (hlarge.trans_le (Nat.lt_succ_iff.1 hn)) (Nat.lt_irrefl _)
    simp [readVarint, hb, hsmall]
  | @more b n bs hb hmore ih =>
    -- the last of the bytes that there is room for has to be the last of the number
    obtain ⟨room, rfl⟩ : ∃ fewer, room = fewer + 1 := by
      have hpos := List.length_pos_iff.2 hmore.ne_nil
      exact ⟨room - 1, by rw [List.length_cons] at hlength; omega⟩
    have hquotient : n < 2 ^ (7 * room + 1) := by
      have hpow : 2 ^ (7 * (room + 1) + 1) = 128 * 2 ^ (7 * room + 1) := by ring
      omega
    have htail := ih room (Nat.succ_le_succ_iff.1 hlength) hquotient
    rw [List.cons_append, readVarint, if_neg hb, htail]
    rfl

theorem IsVarint.decodeVarint_eq {n : Nat} {bs : Bytes} (h : IsVarint n bs) (rest : Bytes) :
    decodeVarint (bs ++ rest) = some (n, rest) :=
  readVarint_spells h.spells rest 9 h.length_le h.lt

theorem IsVarint.takeVarint_eq {n : Nat} {bs : Bytes} (h : IsVarint n bs) (rest : Bytes) :
    takeVarint (bs ++ rest) = .ok (n, rest) := by
  rw [takeVarint, h.decodeVarint_eq rest]

theorem spells_encodeVarint (n : Nat) : Spells n (encodeVarint n) := by
  induction n using Nat.strongRecOn with
  | ind n ih =>
    rw [encodeVarint]
    split
    · rename_i hshort
      have hb : (UInt8.ofNat n).toNat = n := by
        rw [UInt8.toNat_ofNat']
        omega
      have hlast : Spells (UInt8.ofNat n).toNat [UInt8.ofNat n] := by
        apply Spells.last
        rw [UInt8.lt_iff_toNat_lt, hb]
        exact hshort
      rwa [hb] at hlast
    · rename_i hlong
      have hb : (UInt8.ofNat (n % 128 + 128)).toNat = n % 128 + 128 := by
        rw [UInt8.toNat_ofNat']
        omega
      have hbig : ¬ UInt8.ofNat (n % 128 + 128) < 128 := by
        rw [UInt8.lt_iff_toNat_lt, hb]
        exact Nat.not_lt.2 (Nat.le_add_left _ _)
      have hvalue : (UInt8.ofNat (n % 128 + 128)).toNat % 128 + 128 * (n / 128) = n := by
        rw [hb]
        omega
      have hmore := Spells.more hbig (ih (n / 128) (by omega))
      rwa [hvalue] at hmore

theorem length_encodeVarint_le (room n : Nat) (hn : n < 2 ^ (7 * room + 1)) :
    (encodeVarint n).length ≤ room + 1 := by
  induction room generalizing n with
  | zero =>
    have hn : n < 2 := by simpa using hn
    rw [encodeVarint, if_pos (by omega), List.length_singleton]
  | succ room ih =>
    rw [encodeVarint]
    split
    · exact Nat.le_add_left _ _
    · have hpow : 2 ^ (7 * (room + 1) + 1) = 128 * 2 ^ (7 * room + 1) := by ring
      rw [List.length_cons]
      exact Nat.succ_le_succ (ih _ (by omega))

theorem isVarint_encodeVarint {n : Nat} (h : n < 2 ^ 64) : IsVarint n (encodeVarint n) :=
  ⟨spells_encodeVarint n, length_encodeVarint_le 9 n h, h⟩

theorem encodeVarint_ne_nil (n : Nat) : encodeVarint n ≠ [] :=
  (spells_encodeVarint n).ne_nil

theorem decodeVarint_encodeVarint {n : Nat} (rest : Bytes) (hn : n < 2 ^ 64) :
    decodeVarint (encodeVarint n ++ rest) = some (n, rest) :=
  (isVarint_encodeVarint hn).decodeVarint_eq rest

@[simp] theorem takeVarint_encodeVarint {n : Nat} (rest : Bytes) (hn : n < 2 ^ 64) :
    takeVarint (encodeVarint n ++ rest) = .ok (n, rest) :=
  (isVarint_encodeVarint hn).takeVarint_eq rest

/-! ## Stretches of bytes -/

@[simp] theorem take?_length (bs rest : Bytes) :
    take? bs.length (bs ++ rest) = some (bs, rest) := by
  simp [take?]

@[simp] theorem takeExact_length (bs rest : Bytes) :
    takeExact bs.length (bs ++ rest) = .ok (bs, rest) := by
  rw [takeExact, take?_length]

theorem takeDelimited_delimited (bs rest : Bytes) (hbs : bs.length < 2 ^ 64) :
    takeDelimited (delimited bs ++ rest) = .ok (bs, rest) := by
  rw [takeDelimited, delimited, List.append_assoc, takeVarint_encodeVarint _ hbs]
  exact takeExact_length bs rest

theorem length_le_delimited (bs : Bytes) : bs.length ≤ (delimited bs).length := by
  rw [delimited, List.length_append]
  exact Nat.le_add_left _ _

theorem length_delimited_le (bs : Bytes) (hbs : bs.length < 2 ^ 64) :
    (delimited bs).length ≤ bs.length + 10 := by
  have hprefix := length_encodeVarint_le 9 bs.length hbs
  rw [delimited, List.length_append]
  omega

@[simp] theorem length_littleEndian (count n : Nat) :
    (Bytes.littleEndian count n).length = count := by
  induction count generalizing n with
  | zero => rfl
  | succ count ih => rw [Bytes.littleEndian, List.length_cons, ih]

theorem littleEndianNat_littleEndian (count n : Nat) :
    Bytes.littleEndianNat (Bytes.littleEndian count n) = n % 256 ^ count := by
  induction count generalizing n with
  | zero => simp [Bytes.littleEndian, Bytes.littleEndianNat, Nat.mod_one]
  | succ count ih =>
    calc Bytes.littleEndianNat (Bytes.littleEndian (count + 1) n)
        = n % 256 + 256 * Bytes.littleEndianNat (Bytes.littleEndian count (n / 256)) := rfl
      _ = n % 256 + 256 * (n / 256 % 256 ^ count) := by rw [ih]
      _ = n % 256 ^ (count + 1) := by rw [Nat.pow_succ', Nat.mod_mul]

@[simp] theorem decode?_encode (s : String) : Utf8.decode? (Utf8.encode s) = some s := by
  have hbytes : (⟨(Utf8.encode s).toArray⟩ : ByteArray) = s.toByteArray := rfl
  rw [Utf8.decode?, hbytes, String.fromUTF8?, dif_pos s.isValidUTF8]
  rfl

/-! ## Keys -/

theorem WireType.code_lt (w : WireType) : w.code < 8 := by
  cases w <;> decide

@[simp] theorem WireType.ofCode?_code (w : WireType) : WireType.ofCode? w.code = some w := by
  cases w <;> rfl

theorem Key.encode_ne_nil (k : Key) : k.encode ≠ [] :=
  encodeVarint_ne_nil _

theorem Key.length_lt_encode_append (k : Key) (bs rest : Bytes) :
    rest.length < (k.encode ++ bs ++ rest).length := by
  have hpos := List.length_pos_iff.2 k.encode_ne_nil
  rw [List.length_append, List.length_append]
  omega

/-- A field number of at most 29 bits leaves room for the wire type in a key, which is read in any
spelling. -/
theorem Key.decode_isVarint {k : Key} {bs : Bytes}
    (h : IsVarint (k.number * 8 + k.wireType.code) bs) (rest : Bytes) (hpos : 0 < k.number)
    (hlt : k.number < 2 ^ 29) : Key.decode (bs ++ rest) = .ok (k, rest) := by
  have hcode := k.wireType.code_lt
  have hmod : (k.number * 8 + k.wireType.code) % 8 = k.wireType.code := by omega
  have hdiv : (k.number * 8 + k.wireType.code) / 8 = k.number := by omega
  have hroom : ¬ Nat.pow 2 32 ≤ k.number * 8 + k.wireType.code :=
    Nat.not_le.mpr (by omega : k.number * 8 + k.wireType.code < 2 ^ 32)
  rw [Key.decode, h.decodeVarint_eq rest]
  simp only [if_neg hroom, hmod, WireType.ofCode?_code, hdiv, if_neg hpos.ne']

theorem Key.decode_encode (k : Key) (rest : Bytes) (hpos : 0 < k.number)
    (hlt : k.number < 2 ^ 29) : Key.decode (k.encode ++ rest) = .ok (k, rest) := by
  have hcode := k.wireType.code_lt
  exact Key.decode_isVarint (isVarint_encodeVarint (by omega)) rest hpos hlt

/-! ## Scalars -/

/-- A negative number is written as the 64-bit number of the same value; reading it keeps the low
32 bits. -/
theorem ofNat_signExtended (n : Int32) : Int32.ofNat n.toInt64.toUInt64.toNat = n := by
  apply Int32.toBitVec_inj.mp
  calc (Int32.ofNat n.toInt64.toUInt64.toNat).toBitVec
      = BitVec.ofNat 32 n.toInt64.toBitVec.toNat := rfl
    _ = BitVec.setWidth 32 n.toInt64.toBitVec := BitVec.ofNat_toNat ..
    _ = BitVec.signExtend 32 n.toInt64.toBitVec :=
        (BitVec.signExtend_eq_setWidth_of_le _ (by decide)).symm
    _ = n.toBitVec := congrArg Int32.toBitVec n.toInt32_toInt64

theorem ofNat_toUInt64 (n : Int64) : Int64.ofNat n.toUInt64.toNat = n := by
  apply Int64.toBitVec_inj.mp
  change BitVec.ofNat 64 n.toBitVec.toNat = n.toBitVec
  rw [BitVec.ofNat_toNat, BitVec.setWidth_eq]

theorem ofNat_littleEndian (n : UInt64) :
    UInt64.ofNat (Bytes.littleEndianNat (Bytes.littleEndian 8 n.toNat)) = n := by
  rw [littleEndianNat_littleEndian, Nat.mod_eq_of_lt (n.toNat_lt.trans_eq (by norm_num))]
  exact UInt64.ofNat_toNat

theorem Scalar.decode_encode (k : Scalar) (a : k.Val) (rest : Bytes)
    (hlen : (k.encode a).length < 2 ^ 64) : k.decode (k.encode a ++ rest) = .ok (a, rest) := by
  cases k with
  | int32 | enumeration =>
    rw [Scalar.encode, Scalar.decode, takeVarint_encodeVarint _ (UInt64.toNat_lt _)]
    exact congrArg (fun n => Except.ok (n, rest)) (ofNat_signExtended a)
  | int64 =>
    rw [Scalar.encode, Scalar.decode, takeVarint_encodeVarint _ (UInt64.toNat_lt _)]
    exact congrArg (fun n => Except.ok (n, rest)) (ofNat_toUInt64 a)
  | uint32 =>
    rw [Scalar.encode, Scalar.decode,
      takeVarint_encodeVarint _ ((UInt32.toNat_lt _).trans (by decide))]
    exact congrArg (fun n => Except.ok (n, rest)) UInt32.ofNat_toNat
  | fixed64 =>
    have height := takeExact_length (Bytes.littleEndian 8 (UInt64.toNat a)) rest
    rw [length_littleEndian] at height
    rw [Scalar.encode, Scalar.decode, height]
    exact congrArg (fun n => Except.ok (n, rest)) (ofNat_littleEndian a)
  | bool =>
    cases a
    · rfl
    · rfl
  | string =>
    have hcontent := takeDelimited_delimited (Utf8.encode a) rest
      ((length_le_delimited _).trans_lt hlen)
    rw [Scalar.encode, Scalar.decode, hcontent]
    simp only [bind, Except.bind, decode?_encode]
  | bytes => exact takeDelimited_delimited a rest ((length_le_delimited a).trans_lt hlen)

end ClusterProbe.Protobuf
