import ClusterProbe.Session.FrameReader

/-!
# Frames in a stream of bytes

A frame reader that has taken in some bytes tells where in a frame they end: `FrameReader.Follows`.
Pushing pieces keeps this, so that what a reader has taken in when its payload is complete is one
`Frame.segment`: empty frames, the length of the payload, the payload, and nothing beyond.
-/
namespace ClusterProbe

namespace Bytes

theorem bigEndianNat_word (a b c d : UInt8) :
    bigEndianNat [a, b, c, d] =
      ((a.toNat * 256 + b.toNat) * 256 + c.toNat) * 256 + d.toNat := by
  simp [bigEndianNat]

@[simp] theorem length_bigEndian32 (n : UInt32) : (bigEndian32 n).length = 4 := rfl

theorem bigEndianNat_bigEndian32 (n : UInt32) : bigEndianNat (bigEndian32 n) = n.toNat := by
  have hn : n.toNat < 4294967296 := n.toNat_lt
  simp only [bigEndian32, bigEndianNat_word, UInt32.toNat_toUInt8, UInt32.toNat_shiftRight,
    UInt32.reduceToNat, Nat.reduceMod, Nat.shiftRight_eq_div_pow, Nat.reducePow]
  omega

theorem bigEndian32_bigEndianNat {word : Bytes} (h : word.length = 4) :
    bigEndian32 (UInt32.ofNat (bigEndianNat word)) = word := by
  match word, h with
  | [a, b, c, d], _ =>
    have ha := a.toNat_lt
    have hb := b.toNat_lt
    have hc := c.toNat_lt
    have hd := d.toNat_lt
    rw [bigEndianNat_word]
    simp only [bigEndian32, List.cons.injEq, ← UInt8.toNat_inj, UInt32.toNat_toUInt8,
      UInt32.toNat_shiftRight, UInt32.toNat_ofNat', UInt32.reduceToNat, Nat.reduceMod,
      Nat.shiftRight_eq_div_pow, Nat.reducePow, and_true]
    omega

theorem bigEndianNat_lt {word : Bytes} (h : word.length = 4) : bigEndianNat word < 4294967296 := by
  rw [← bigEndian32_bigEndianNat h, bigEndianNat_bigEndian32]
  exact UInt32.toNat_lt _

end Bytes

namespace Frame

/-- The start of a frame in a stream: empty frames, then the length, then what there is of a payload
of that length. -/
def opening (skipped size : Nat) (got : Bytes) : Bytes :=
  List.replicate (4 * skipped) 0 ++ (Bytes.bigEndian32 (UInt32.ofNat size) ++ got)

/-- The stretch of a stream that brings a payload. Read up to there, nothing of the next frame has
been touched. -/
def segment (skipped : Nat) (payload : Bytes) : Bytes :=
  opening skipped payload.length payload

/-- A length that four bytes can announce and that does not mark an empty frame. -/
def Announced (size : Nat) : Prop := 0 < size ∧ size < 4294967296

theorem bigEndianNat_announced {size : Nat} (h : Announced size) :
    Bytes.bigEndianNat (Bytes.bigEndian32 (UInt32.ofNat size)) = size := by
  rw [Bytes.bigEndianNat_bigEndian32, UInt32.toNat_ofNat']
  exact Nat.mod_eq_of_lt h.2

theorem encodeLength_eq_ok {n : Nat} {word : Bytes} :
    encodeLength n = .ok word ↔ n < 4294967296 ∧ word = Bytes.bigEndian32 (UInt32.ofNat n) := by
  unfold encodeLength
  split
  · rename_i hfits
    exact ⟨fun h => ⟨hfits, (Except.ok.inj h).symm⟩, fun h => congrArg Except.ok h.2.symm⟩
  · rename_i hfits
    exact ⟨nofun, fun h => absurd h.1 hfits⟩

theorem encodeLength_eq_error {n : Nat} {e : WireError} :
    encodeLength n = .error e ↔ 4294967296 ≤ n ∧ e = .size n := by
  unfold encodeLength
  split
  · rename_i hfits
    exact ⟨nofun, fun h => absurd hfits (Nat.not_lt.2 h.1)⟩
  · rename_i hfits
    exact ⟨fun h => ⟨Nat.not_lt.1 hfits, (Except.error.inj h).symm⟩,
      fun h => congrArg Except.error h.2.symm⟩

theorem decodeLength_eq_none {word : Bytes} (hw : word.length = 4)
    (h : decodeLength word = none) : word = List.replicate 4 0 := by
  have hz : Bytes.bigEndianNat word = 0 := by
    unfold decodeLength at h
    split at h
    · assumption
    · cases h
  rw [← Bytes.bigEndian32_bigEndianNat hw, hz]
  rfl

theorem decodeLength_eq_some {word : Bytes} {size : Nat} (hw : word.length = 4)
    (h : decodeLength word = some size) :
    Announced size ∧ word = Bytes.bigEndian32 (UInt32.ofNat size) := by
  have hz : Bytes.bigEndianNat word = size ∧ size ≠ 0 := by
    unfold decodeLength at h
    split at h
    · cases h
    · rename_i n hn
      cases h
      exact ⟨rfl, hn⟩
  have hlt := Bytes.bigEndianNat_lt hw
  refine ⟨⟨by omega, by omega⟩, ?_⟩
  rw [← hz.1, Bytes.bigEndian32_bigEndianNat hw]

theorem zeros_succ (k : Nat) (more : Bytes) :
    List.replicate (4 * (k + 1)) 0 ++ more =
      List.replicate 4 0 ++ (List.replicate (4 * k) 0 ++ more) := by
  rw [Nat.mul_succ, Nat.add_comm, ← List.replicate_append_replicate, List.append_assoc]

theorem opening_succ (k size : Nat) (got : Bytes) :
    opening (k + 1) size got = List.replicate 4 0 ++ opening k size got :=
  zeros_succ k _

theorem opening_zero_ne_zeros {size : Nat} {got more : Bytes} (h : Announced size) :
    opening 0 size got ≠ List.replicate 4 0 ++ more := by
  intro heq
  rw [opening, Nat.mul_zero, List.replicate_zero, List.nil_append] at heq
  have hword := (List.append_inj heq rfl).1
  have hzero := congrArg Bytes.bigEndianNat hword
  rw [bigEndianNat_announced h] at hzero
  exact absurd hzero (Nat.ne_of_gt h.1)

/-- Where the empty frames end and how long the payload is can be read off the bytes. -/
theorem opening_injective {k k' size size' : Nat} {got got' : Bytes} (hs : Announced size)
    (hs' : Announced size') (h : opening k size got = opening k' size' got') :
    k = k' ∧ size = size' ∧ got = got' := by
  induction k generalizing k' with
  | zero =>
    cases k' with
    | zero =>
      obtain ⟨hword, hgot⟩ := List.append_inj (List.append_inj h rfl).2 rfl
      have hsize := congrArg Bytes.bigEndianNat hword
      rw [bigEndianNat_announced hs, bigEndianNat_announced hs'] at hsize
      exact ⟨rfl, hsize, hgot⟩
    | succ k' =>
      rw [opening_succ] at h
      exact absurd h (opening_zero_ne_zeros hs)
  | succ k ih =>
    cases k' with
    | zero =>
      rw [opening_succ] at h
      exact absurd h.symm (opening_zero_ne_zeros hs')
    | succ k' =>
      rw [opening_succ, opening_succ, List.append_cancel_left_eq] at h
      obtain ⟨rfl, hrest⟩ := ih h
      exact ⟨rfl, hrest⟩

/-- Less than a length does not reach as far as a payload. -/
theorem zeros_ne_opening {k k' size : Nat} {got word : Bytes} (hs : Announced size)
    (hw : word.length < 4) : List.replicate (4 * k) 0 ++ word ≠ opening k' size got := by
  induction k' generalizing k with
  | zero =>
    cases k with
    | zero =>
      intro heq
      have hlen := congrArg List.length heq
      simp only [opening, List.length_append, List.length_replicate,
        Bytes.length_bigEndian32] at hlen
      omega
    | succ k =>
      rw [zeros_succ]
      exact (opening_zero_ne_zeros hs).symm
  | succ k' ih =>
    rw [opening_succ]
    cases k with
    | zero =>
      intro heq
      have hlen := congrArg List.length heq
      simp only [List.length_append, List.length_replicate] at hlen
      omega
    | succ k =>
      rw [zeros_succ, Ne, List.append_cancel_left_eq]
      exact ih

theorem segment_injective {k k' : Nat} {p p' : Bytes} (hp : Announced p.length)
    (hp' : Announced p'.length) (h : segment k p = segment k' p') : k = k' ∧ p = p' := by
  obtain ⟨hk, _, hgot⟩ := opening_injective hp hp' h
  exact ⟨hk, hgot⟩

/-- Only one payload is announced at the front of a stream, and it ends where it is said to. -/
theorem eq_of_segment_append {k k' : Nat} {p p' more : Bytes} (hp : Announced p.length)
    (hp' : Announced p'.length) (h : segment k p ++ more = segment k' p') :
    k = k' ∧ p = p' ∧ more = [] := by
  have hopening : opening k p.length (p ++ more) = opening k' p'.length p' := by
    rw [← segment, ← h]
    simp only [segment, opening, List.append_assoc]
  obtain ⟨hk, hlen, hgot⟩ := opening_injective hp hp' hopening
  have hmore : more = [] := by
    have hlengths := congrArg List.length hgot
    rw [List.length_append] at hlengths
    exact List.length_eq_zero_iff.1 (by omega)
  rw [hmore, List.append_nil] at hgot
  exact ⟨hk, hgot, hmore⟩

end Frame

namespace FrameReader

open ClusterProbe.Frame

/-- The reader stands where the bytes `chunk`, read from the start of a frame, end. -/
def Follows (chunk : Bytes) : FrameReader → Prop
  | word got => got.length < 4 ∧ ∃ k, chunk = List.replicate (4 * k) 0 ++ got
  | payload size got => got.length ≤ size ∧ Announced size ∧ ∃ k, chunk = opening k size got

theorem follows_start : Follows [] start :=
  ⟨Nat.zero_lt_succ 3, 0, rfl⟩

/-- A reader that has read nothing stands in front of a length. -/
theorem not_follows_nil {size : Nat} {got : Bytes} : ¬ (payload size got).Follows [] := by
  rintro ⟨-, hsize, k, heq⟩
  have hne : List.replicate (4 * 0) 0 ++ [] ≠ opening k size got :=
    zeros_ne_opening hsize (Nat.zero_lt_succ 3)
  exact hne heq

theorem Follows.push {r : FrameReader} {chunk piece : Bytes} (h : r.Follows chunk)
    (hp : piece.length ≤ r.wanted) : (r.push piece).Follows (chunk ++ piece) := by
  cases r with
  | word got =>
    obtain ⟨hlt, k, rfl⟩ := h
    simp only [wanted] at hp
    simp only [FrameReader.push]
    by_cases hshort : (got ++ piece).length < 4
    · rw [if_pos hshort]
      exact ⟨hshort, k, List.append_assoc ..⟩
    · rw [if_neg hshort]
      have hword : (got ++ piece).length = 4 := by
        rw [List.length_append] at hshort ⊢
        omega
      cases hd : decodeLength (got ++ piece) with
      | none =>
        refine ⟨Nat.zero_lt_succ 3, k + 1, ?_⟩
        rw [List.append_assoc, decodeLength_eq_none hword hd, Nat.mul_succ, List.append_nil,
          List.replicate_append_replicate]
      | some size =>
        obtain ⟨hsize, heq⟩ := decodeLength_eq_some hword hd
        refine ⟨Nat.zero_le _, hsize, k, ?_⟩
        rw [List.append_assoc, heq, opening, List.append_nil]
  | payload size got =>
    obtain ⟨hle, hsize, k, rfl⟩ := h
    simp only [wanted] at hp
    refine ⟨?_, hsize, k, ?_⟩
    · rw [List.length_append]
      omega
    · simp only [opening, List.append_assoc]

/-- Reading from a buffer takes a stretch from its front, and the reader follows. -/
theorem readFrom_takes (stop : FrameReader → Bool) (r : FrameReader) (buffer : Bytes) :
    ∃ took, buffer = took ++ (r.readFrom stop buffer).rest ∧
      ∀ chunk, r.Follows chunk → (r.readFrom stop buffer).reader.Follows (chunk ++ took) := by
  fun_induction FrameReader.readFrom stop r buffer with
  | case1 r buffer hstop => exact ⟨[], rfl, fun chunk h => by rwa [List.append_nil]⟩
  | case2 r buffer hstop hlt next =>
    rename_i ih
    obtain ⟨took, hbuffer, hfollows⟩ := ih
    refine ⟨buffer.take r.wanted ++ took, ?_, fun chunk h => ?_⟩
    · rw [List.append_assoc, ← hbuffer, List.take_append_drop]
    · have hpiece : (buffer.take r.wanted).length ≤ r.wanted := by
        rw [List.length_take]
        exact Nat.min_le_left _ _
      have hnext := hfollows _ (h.push hpiece)
      rwa [List.append_assoc] at hnext

/-- Reading that leaves the buffer as it is has done nothing. -/
theorem readFrom_of_idle {stop : FrameReader → Bool} {r : FrameReader} {buffer : Bytes}
    (h : (r.readFrom stop buffer).rest.length = buffer.length) :
    r.readFrom stop buffer = ⟨r, buffer, 0⟩ := by
  by_cases hstop : stop r = true ∨ (buffer.take r.wanted).isEmpty = true
  · rw [readFrom, dif_pos hstop]
  · rw [readFrom, dif_neg hstop] at h
    obtain ⟨took, hbuffer, _⟩ :=
      readFrom_takes stop (r.push (buffer.take r.wanted)) (buffer.drop r.wanted)
    have hlen := congrArg List.length hbuffer
    rw [List.length_drop, List.length_append] at hlen
    simp only [List.isEmpty_iff, List.take_eq_nil_iff, not_or] at hstop
    have hpos := List.length_pos_iff.2 hstop.2.2
    dsimp only at h
    omega

/-- What has been read is not read again. -/
theorem readFrom_readFrom (stop : FrameReader → Bool) (r : FrameReader) (buffer : Bytes) :
    let p := r.readFrom stop buffer
    p.reader.readFrom stop p.rest = ⟨p.reader, p.rest, 0⟩ := by
  fun_induction FrameReader.readFrom stop r buffer with
  | case1 r buffer hstop =>
    dsimp only
    rw [readFrom, dif_pos hstop]
  | case2 r buffer hstop hlt next => assumption

/-- Where reading is not stopped, it goes on to the end of the buffer. -/
theorem Follows.readFrom_rest {stop : FrameReader → Bool} {r : FrameReader} {chunk : Bytes}
    (h : r.Follows chunk) (buffer : Bytes)
    (hstop : ∀ size got, size ≤ got.length → stop (payload size got) = true)
    (hgoes : stop (r.readFrom stop buffer).reader = false) :
    (r.readFrom stop buffer).rest = [] := by
  fun_induction FrameReader.readFrom stop r buffer generalizing chunk with
  | case1 r buffer hends =>
    have hwanted : r.wanted ≠ 0 := by
      intro hzero
      cases r with
      | word got =>
        have hlt := h.1
        simp only [wanted] at hzero
        omega
      | payload size got =>
        have hall := hstop size got (Nat.le_of_sub_eq_zero hzero)
        exact absurd hgoes (by simp [hall])
    rcases hends with hends | hends
    · exact absurd hgoes (by simp [hends])
    · rw [List.isEmpty_iff, List.take_eq_nil_iff] at hends
      exact hends.resolve_left hwanted
  | case2 r buffer hends hlt next =>
    rename_i ih
    have hpiece : (buffer.take r.wanted).length ≤ r.wanted := by
      rw [List.length_take]
      exact Nat.min_le_left _ _
    exact ih (h.push hpiece) hgoes

theorem Follows.payload_eq {size : Nat} {got chunk : Bytes} (h : (payload size got).Follows chunk)
    (hall : size ≤ got.length) :
    Announced got.length ∧ ∃ k, chunk = Frame.segment k got := by
  obtain ⟨hle, hsize, k, rfl⟩ := h
  have heq : got.length = size := Nat.le_antisymm hle hall
  exact ⟨heq ▸ hsize, k, by rw [Frame.segment, heq]⟩

theorem Follows.eq_payload {r : FrameReader} {k : Nat} {p : Bytes}
    (h : r.Follows (Frame.segment k p))
    (hp : Announced p.length) : r = payload p.length p := by
  cases r with
  | word got =>
    obtain ⟨hlt, k', heq⟩ := h
    exact absurd heq.symm (zeros_ne_opening hp hlt)
  | payload size got =>
    obtain ⟨_, hsize, k', heq⟩ := h
    obtain ⟨_, rfl, rfl⟩ := opening_injective hp hsize heq
    rfl

/-- What is not settled, or settled by a refusal, is not a payload that is short enough. -/
theorem Follows.ne_segment {r : FrameReader} {limit : Nat} {chunk : Bytes} (h : r.Follows chunk)
    (ho : ∀ p, r.outcome? limit ≠ some (.ok p)) (k : Nat) (p : Bytes) (hp : Announced p.length)
    (hlimit : p.length ≤ limit) : chunk ≠ Frame.segment k p := by
  rintro rfl
  rw [h.eq_payload hp] at ho
  refine ho p ?_
  simp [outcome?, payload?, Nat.not_lt.2 hlimit]

end FrameReader
end ClusterProbe
