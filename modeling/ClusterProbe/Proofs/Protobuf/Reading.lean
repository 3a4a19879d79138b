import ClusterProbe.Proofs.Protobuf.Scalars
import ClusterProbe.Proofs.Results

/-!
# What was read

The converse of reading what was written: a varint that is read was spelled at the front of the
input, as `IsVarint` says, and no spelling of its number is shorter than the plain one. A spelling
that is cut short is not read at all.
-/
namespace ClusterProbe.Protobuf

/-! ## Varints -/

theorem Spells.lt {n : Nat} {bs : Bytes} (h : Spells n bs) : n < 128 ^ bs.length := by
  induction h with
  | last hb => simpa using UInt8.lt_iff_toNat_lt.1 hb
  | more _ _ ih =>
    rw [List.length_cons, Nat.pow_succ]
    omega

theorem spells_of_readVarint {room n : Nat} {bs rest : Bytes}
    (h : readVarint room bs = some (n, rest)) :
    ∃ word, bs = word ++ rest ∧ Spells n word ∧ word.length ≤ room ∧
      n < 2 * 128 ^ (room - 1) := by
  induction room generalizing n bs with
  | zero => cases h
  | succ room ih =>
    cases bs with
    | nil => cases h
    | cons b bs =>
      rw [readVarint] at h
      split at h
      · rename_i hlast
        split at h
        · cases h
        · rename_i hfits
          obtain ⟨rfl, rfl⟩ := Prod.mk.inj (Option.some.inj h)
          refine ⟨[b], rfl, .last hlast, Nat.le_add_left _ _, ?_⟩
          have hb := UInt8.lt_iff_toNat_lt.1 hlast
          cases room with
          | zero =>
            have hsmall : ¬ 1 < b := by simpa using hfits
            rw [UInt8.lt_iff_toNat_lt] at hsmall
            exact Nat.lt_succ_of_le (Nat.not_lt.1 hsmall)
          | succ room =>
            have hpos : 0 < 128 ^ room := Nat.pow_pos (by decide)
            have hpow : 128 ^ (room + 1) = 128 ^ room * 128 := pow_succ 128 room
            change b.toNat < 128 at hb
            rw [Nat.add_sub_cancel]
            omega
      · rename_i hmore
        obtain ⟨⟨m, tail⟩, hread, heq⟩ := Option.map_eq_some_iff.1 h
        obtain ⟨rfl, rfl⟩ := Prod.mk.inj heq
        obtain ⟨word, rfl, hspells, hlength, hlt⟩ := ih hread
        refine ⟨b :: word, rfl, .more hmore hspells, Nat.succ_le_succ hlength, ?_⟩
        obtain ⟨room, rfl⟩ : ∃ fewer, room = fewer + 1 := by
          cases room with
          | zero => cases hread
          | succ room => exact ⟨room, rfl⟩
        have hpow : 128 ^ (room + 1) = 128 ^ room * 128 := pow_succ 128 room
        simp only [Nat.add_sub_cancel] at hlt ⊢
        omega

theorem decodeVarint_eq_some {n : Nat} {bs rest : Bytes} :
    decodeVarint bs = some (n, rest) ↔ ∃ word, bs = word ++ rest ∧ IsVarint n word := by
  constructor
  · intro h
    obtain ⟨word, hbs, hspells, hlength, hlt⟩ := spells_of_readVarint h
    exact ⟨word, hbs, hspells, hlength, hlt.trans_eq (by norm_num)⟩
  · rintro ⟨word, rfl, hword⟩
    exact hword.decodeVarint_eq rest

theorem takeVarint_eq_ok {n : Nat} {bs rest : Bytes} :
    takeVarint bs = .ok (n, rest) ↔ ∃ word, bs = word ++ rest ∧ IsVarint n word := by
  rw [← decodeVarint_eq_some, takeVarint]
  cases decodeVarint bs with
  | none => simp
  | some r => simp

/-- A spelling that is cut short ends where more has to follow. -/
theorem Spells.readVarint_cut {n : Nat} {word cut : Bytes} (h : Spells n word)
    (hcut : cut <+: word) (hshort : cut.length < word.length) (room : Nat) :
    readVarint room cut = none := by
  induction h generalizing cut room with
  | last hb =>
    have hnil : cut = [] := List.length_eq_zero_iff.1 (Nat.lt_one_iff.1 hshort)
    subst hnil
    cases room <;> rfl
  | @more b n bs hb hmore ih =>
    cases room with
    | zero => rfl
    | succ room =>
      cases cut with
      | nil => rfl
      | cons b' cut =>
        obtain ⟨rfl, htail⟩ := List.cons_prefix_cons.1 hcut
        rw [readVarint, if_neg hb, ih htail (Nat.lt_of_succ_lt_succ hshort)]
        rfl

theorem decodeVarint_cut {n : Nat} {cut : Bytes} (hcut : cut <+: encodeVarint n)
    (hshort : cut.length < (encodeVarint n).length) : decodeVarint cut = none :=
  (spells_encodeVarint n).readVarint_cut hcut hshort 10

/-! ## Lengths of varints -/

theorem length_encodeVarint_pos (n : Nat) : 0 < (encodeVarint n).length :=
  List.length_pos_iff.2 (encodeVarint_ne_nil n)

theorem lt_pow_length_encodeVarint (n : Nat) : n < 128 ^ (encodeVarint n).length :=
  (spells_encodeVarint n).lt

/-- Every seven bits take one byte, and the number zero takes one too. -/
theorem length_encodeVarint_le_of_lt {n k : Nat} (hpos : 0 < k) (h : n < 128 ^ k) :
    (encodeVarint n).length ≤ k := by
  induction k generalizing n with
  | zero => exact absurd hpos (Nat.lt_irrefl 0)
  | succ k ih =>
    rw [encodeVarint]
    split
    · exact Nat.le_add_left _ _
    · rename_i hlong
      rw [Nat.pow_succ] at h
      rw [List.length_cons]
      apply Nat.succ_le_succ
      apply ih
      · by_contra hzero
        obtain rfl : k = 0 := by omega
        omega
      · omega

/-- No spelling is shorter than the plain one. -/
theorem Spells.length_encodeVarint_le {n : Nat} {bs : Bytes} (h : Spells n bs) :
    (encodeVarint n).length ≤ bs.length :=
  length_encodeVarint_le_of_lt (List.length_pos_iff.2 h.ne_nil) h.lt

theorem length_encodeVarint_mono {m n : Nat} (h : m ≤ n) :
    (encodeVarint m).length ≤ (encodeVarint n).length :=
  length_encodeVarint_le_of_lt (length_encodeVarint_pos n)
    (h.trans_lt (lt_pow_length_encodeVarint n))

theorem length_encodeVarint_add (m n : Nat) :
    (encodeVarint (m + n)).length ≤ (encodeVarint m).length + (encodeVarint n).length := by
  apply length_encodeVarint_le_of_lt (Nat.add_pos_left (length_encodeVarint_pos m) _)
  have hm := lt_pow_length_encodeVarint m
  have hn := lt_pow_length_encodeVarint n
  have hprod : (m + 1) * (n + 1) ≤ 128 ^ (encodeVarint m).length * 128 ^ (encodeVarint n).length :=
    Nat.mul_le_mul hm hn
  rw [Nat.pow_add]
  nlinarith

theorem length_encodeVarint_double (n : Nat) :
    (encodeVarint (2 * n)).length ≤ (encodeVarint n).length + 1 := by
  apply length_encodeVarint_le_of_lt (Nat.succ_pos _)
  have hn := lt_pow_length_encodeVarint n
  rw [Nat.pow_succ]
  omega

theorem length_of_takeVarint {n : Nat} {bs rest : Bytes} (h : takeVarint bs = .ok (n, rest)) :
    (encodeVarint n).length + rest.length ≤ bs.length ∧ n < 2 ^ 64 := by
  obtain ⟨word, rfl, hword⟩ := takeVarint_eq_ok.1 h
  rw [List.length_append]
  exact ⟨Nat.add_le_add_right hword.spells.length_encodeVarint_le _, hword.lt⟩

/-! ## Stretches of bytes -/

theorem take?_eq_some {n : Nat} {bs content rest : Bytes} :
    take? n bs = some (content, rest) ↔ bs = content ++ rest ∧ content.length = n := by
  constructor
  · intro h
    rw [take?] at h
    split at h
    · rename_i hle
      cases h
      exact ⟨(List.take_append_drop n bs).symm, List.length_take_of_le hle⟩
    · cases h
  · rintro ⟨rfl, rfl⟩
    exact take?_length content rest

theorem take?_eq_none {n : Nat} {bs : Bytes} : take? n bs = none ↔ bs.length < n := by
  rw [take?]
  split
  · rename_i hle
    simpa using hle
  · rename_i hmore
    simpa using hmore

theorem takeExact_eq_ok {n : Nat} {bs content rest : Bytes} :
    takeExact n bs = .ok (content, rest) ↔ bs = content ++ rest ∧ content.length = n := by
  rw [← take?_eq_some, takeExact]
  cases take? n bs with
  | none => simp
  | some r => simp

/-- Text that was read is written as the bytes it was read from. -/
theorem encode_of_decode? {bs : Bytes} {text : String} (h : Utf8.decode? bs = some text) :
    Utf8.encode text = bs := by
  rw [Utf8.decode?, String.fromUTF8?] at h
  split at h
  · cases h
    rfl
  · cases h

end ClusterProbe.Protobuf
