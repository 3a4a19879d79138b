import ClusterProbe.Proofs.Frame
import ClusterProbe.Proofs.Protobuf.Growth

/-!
# Payloads written again

Which payloads are accepted: a header behind its length and, unless nothing follows, a body behind
its own length, in any spelling of the lengths, of the fields of the header and of their order, and
with anything after the body. What is kept of such a payload can be written and read back, since a
header that was read is written in about twice its bytes at most. A byte string in memory is shorter
than 2^63, which leaves room for that.
-/
namespace ClusterProbe

open Protobuf

namespace Frame

/-- The bytes are this content behind its length, which may be spelled in more than one way. -/
def IsDelimited (content bs : Bytes) : Prop :=
  ∃ length, bs = length ++ content ∧ IsVarint content.length length

theorem IsDelimited.ne_nil {content bs : Bytes} (h : IsDelimited content bs) : bs ≠ [] := by
  obtain ⟨length, rfl, hlength⟩ := h
  exact List.append_ne_nil_of_left_ne_nil hlength.spells.ne_nil _

/-- A section is split off exactly where one stands. -/
theorem splitSection_eq_ok {part : String} {bs content rest : Bytes} :
    splitSection part bs = .ok (content, rest) ↔
      ∃ front, bs = front ++ rest ∧ IsDelimited content front := by
  constructor
  · intro h
    rw [splitSection] at h
    split at h
    · cases h
    · rename_i n tail hvarint
      obtain ⟨length, rfl, hlength⟩ := decodeVarint_eq_some.1 hvarint
      split at h
      · rename_i r htake
        cases h
        obtain ⟨rfl, rfl⟩ := take?_eq_some.1 htake
        exact ⟨length ++ content, (List.append_assoc ..).symm, length, rfl, hlength⟩
      · cases h
  · rintro ⟨front, rfl, length, rfl, hlength⟩
    rw [splitSection, List.append_assoc, hlength.decodeVarint_eq]
    simp only [take?_length]

/-- So one is split off from whatever follows it, and something stands there. -/
theorem IsDelimited.split {content bs : Bytes} (h : IsDelimited content bs) (part : String)
    (rest : Bytes) :
    (bs ++ rest).isEmpty = false ∧ splitSection part (bs ++ rest) = .ok (content, rest) := by
  refine ⟨?_, splitSection_eq_ok.2 ⟨bs, rfl, h⟩⟩
  exact List.isEmpty_eq_false_iff.2 (List.append_ne_nil_of_left_ne_nil h.ne_nil _)

/-- The payload is this header and this body, each behind its length. Without a body nothing
follows the header; behind a body anything may stand. -/
def Divides (payload header : Bytes) (body : Option Bytes) : Prop :=
  ∃ front back, payload = front ++ back ∧ IsDelimited header front ∧
    match body with
    | none => back = []
    | some content => ∃ segment trailing, back = segment ++ trailing ∧ IsDelimited content segment

/-- Writing the parts of a payload again, the header with at most twice its bytes and a few more,
gives a payload that fits. A body that was not there may be written as an empty one. -/
theorem Divides.length_encodeSections_lt {M : Type} [Message M] {payload section1 : Bytes}
    {body written : Option Bytes} {header : M} (h : Divides payload section1 body)
    (hpayload : payload.length < 2 ^ 63) (hwritten : written.getD [] = body.getD [])
    (hheader : (Message.encode header).length ≤ 8 + 2 * section1.length) :
    (encodeSections header written).length < 2 ^ 64 := by
  obtain ⟨front, back, rfl, ⟨length, rfl, hlength⟩, hback⟩ := h
  have hlt := hlength.spells.lt
  have hprefix := length_encodeVarint_le 9 (Message.encode header).length
  have hsections : (encodeSections header written).length ≤
      (delimited (Message.encode header)).length + (back.length + 1) := by
    rw [encodeSections.eq_def, List.length_append]
    apply Nat.add_le_add_left
    cases written with
    | none => exact Nat.zero_le _
    | some content =>
      cases body with
      | none =>
        obtain rfl : content = [] := hwritten
        simp [delimited, encodeVarint]
      | some original =>
        obtain rfl : content = original := hwritten
        obtain ⟨segment, trailing, rfl, word, rfl, hword⟩ := hback
        have hshort := hword.spells.length_encodeVarint_le
        simp only [delimited, List.length_append]
        omega
  -- a length that takes up to eight bytes is small, and a longer one has room of its own
  have hroom : section1.length < 2 ^ 56 ∨ 9 ≤ length.length := by
    rcases Nat.lt_or_ge length.length 9 with hshort | hlong
    · have hpow : 128 ^ length.length ≤ 128 ^ 8 := Nat.pow_le_pow_right (by decide) (by omega)
      omega
    · exact .inr hlong
  rw [delimited, List.length_append] at hsections
  simp only [List.length_append] at hpayload
  omega

end Frame

open ClusterProbe.Frame

namespace RequestFrame

/-- What is accepted as a request. -/
theorem decode_eq_ok {bs : Bytes} {f : RequestFrame} :
    decode bs = .ok f ↔ ∃ section1 body, Divides bs section1 body ∧
      decodeSection "request header" RequestHeader section1 = .ok f.header ∧
      f.header.remoteMethod.isSome ∧ f.body = body.getD [] := by
  constructor
  · intro h
    obtain ⟨⟨section1, rest⟩, hsplit, h⟩ := bind_eq_ok.1 h
    obtain ⟨header, hheader, h⟩ := bind_eq_ok.1 h
    obtain ⟨front, hbs, hfront⟩ := splitSection_eq_ok.1 hsplit
    dsimp only at h
    split at h
    · cases h
    · rename_i hmethod
      have hmethod := Option.isSome_iff_ne_none.2 (mt Option.isNone_iff_eq_none.2 hmethod)
      split at h
      · rename_i hempty
        cases h
        exact ⟨section1, none, ⟨front, rest, hbs, hfront, List.isEmpty_iff.1 hempty⟩, hheader,
          hmethod, rfl⟩
      · obtain ⟨⟨body, trailing⟩, hbody, h⟩ := bind_eq_ok.1 h
        obtain ⟨segment, hrest, hsegment⟩ := splitSection_eq_ok.1 hbody
        cases h
        exact ⟨section1, some body, ⟨front, rest, hbs, hfront, segment, trailing, hrest, hsegment⟩,
          hheader, hmethod, rfl⟩
  · rintro ⟨section1, body, ⟨front, back, hbs, hfront, hback⟩, hheader, hmethod, hbody⟩
    obtain ⟨header, content⟩ := f
    refine bind_eq_ok.2 ⟨(section1, back), splitSection_eq_ok.2 ⟨front, hbs, hfront⟩, ?_⟩
    refine bind_eq_ok.2 ⟨header, hheader, ?_⟩
    dsimp only at hback hbody hmethod ⊢
    rw [Option.isNone_eq_false_iff.2 hmethod, if_neg Bool.false_ne_true]
    cases body with
    | none =>
      subst hback hbody
      rfl
    | some content =>
      obtain ⟨segment, trailing, rfl, hsegment⟩ := hback
      subst hbody
      obtain ⟨hmore, hsplit⟩ := hsegment.split "request body" trailing
      rw [hmore, if_neg Bool.false_ne_true]
      exact bind_eq_ok.2 ⟨_, hsplit, rfl⟩

end RequestFrame

namespace ResponseFrame

/-- What is accepted as a response. -/
theorem decode_eq_ok {bs : Bytes} {f : ResponseFrame} :
    decode bs = .ok f ↔ ∃ section1, Divides bs section1 f.body ∧
      decodeSection "response header" ResponseHeader section1 = .ok f.header := by
  constructor
  · intro h
    obtain ⟨⟨g, left⟩, hfull, rfl⟩ := map_eq_ok.1 h
    obtain ⟨⟨section1, rest⟩, hsplit, hfull⟩ := bind_eq_ok.1 hfull
    obtain ⟨header, hheader, hfull⟩ := bind_eq_ok.1 hfull
    obtain ⟨front, hbs, hfront⟩ := splitSection_eq_ok.1 hsplit
    dsimp only at hfull
    split at hfull
    · rename_i hempty
      cases hfull
      exact ⟨section1, ⟨front, rest, hbs, hfront, List.isEmpty_iff.1 hempty⟩, hheader⟩
    · obtain ⟨⟨body, trailing⟩, hbody, hfull⟩ := bind_eq_ok.1 hfull
      obtain ⟨segment, hrest, hsegment⟩ := splitSection_eq_ok.1 hbody
      cases hfull
      exact ⟨section1, ⟨front, rest, hbs, hfront, segment, trailing, hrest, hsegment⟩, hheader⟩
  · rintro ⟨section1, ⟨front, back, hbs, hfront, hback⟩, hheader⟩
    obtain ⟨header, body⟩ := f
    have hsplit : splitSection "response header" bs = .ok (section1, back) :=
      splitSection_eq_ok.2 ⟨front, hbs, hfront⟩
    cases body with
    | none =>
      subst hback
      refine map_eq_ok.2 ⟨(⟨header, none⟩, []), ?_, rfl⟩
      exact bind_eq_ok.2 ⟨_, hsplit, bind_eq_ok.2 ⟨header, hheader, rfl⟩⟩
    | some content =>
      obtain ⟨segment, trailing, rfl, hsegment⟩ := hback
      refine map_eq_ok.2 ⟨(⟨header, some content⟩, trailing), ?_, rfl⟩
      refine bind_eq_ok.2 ⟨_, hsplit, bind_eq_ok.2 ⟨header, hheader, ?_⟩⟩
      obtain ⟨hmore, hbody⟩ := hsegment.split "response body" trailing
      dsimp only
      rw [hmore, if_neg Bool.false_ne_true]
      exact bind_eq_ok.2 ⟨_, hbody, rfl⟩

/-- A response is read back with the body that it has or does not have. -/
theorem decode_encode (f : ResponseFrame) (hlen : f.encode.length < 2 ^ 64) :
    decode f.encode = .ok f := by
  obtain ⟨header, body⟩ := f
  cases body with
  | none => exact map_eq_ok.2 ⟨_, decodeWithRest_encode_void header hlen, rfl⟩
  | some content =>
    have hread := decodeWithRest_encode header content [] hlen
    rw [List.append_nil] at hread
    exact map_eq_ok.2 ⟨_, hread, rfl⟩

end ResponseFrame

/-- A header that was read from a section is written in twice its bytes and a few more. -/
theorem Frame.length_encode_header_le {M : Type} [Message M] {part : String} {section1 : Bytes}
    {header : M} (hcompact : (Message.layout M).Compact)
    (hempty : (Message.layout M).room (Message.layout M).zero ≤ 8)
    (h : decodeSection part M section1 = .ok header) :
    (Message.encode header).length ≤ 8 + 2 * section1.length := by
  have hlength := Message.length_encode_decode_le hcompact (mapError_eq_ok.1 h)
  omega

/-- **Accepted payloads.** Whatever spelling of a payload is accepted as a request or a response,
what was read is read back from its own encoding, so that writing it once more gives the same bytes;
and the body that was read is the segment that stands behind its length in the payload. -/
theorem accepted_normalized (payload : Bytes) (hpayload : payload.length < 2 ^ 63) :
    (∀ f, RequestFrame.decode payload = .ok f →
      RequestFrame.decode f.encode = .ok f ∧
        (RequestFrame.decode f.encode).map RequestFrame.encode = .ok f.encode ∧
        ∃ header body, Divides payload header body ∧
          decodeSection "request header" RequestHeader header = .ok f.header ∧
          f.body = body.getD []) ∧
    ∀ f, ResponseFrame.decode payload = .ok f →
      ResponseFrame.decode f.encode = .ok f ∧
        (ResponseFrame.decode f.encode).map ResponseFrame.encode = .ok f.encode ∧
        ∃ header, Divides payload header f.body ∧
          decodeSection "response header" ResponseHeader header = .ok f.header := by
  constructor
  · intro f h
    obtain ⟨section1, body, hdivides, hheader, hmethod, hbody⟩ := RequestFrame.decode_eq_ok.1 h
    have hlen : f.encode.length < 2 ^ 64 :=
      hdivides.length_encodeSections_lt hpayload hbody
        (length_encode_header_le (by decide) (by decide +kernel) hheader)
    have hback := f.decode_encode [] hmethod hlen
    rw [List.append_nil] at hback
    rw [hback]
    exact ⟨rfl, rfl, section1, body, hdivides, hheader, hbody⟩
  · intro f h
    obtain ⟨section1, hdivides, hheader⟩ := ResponseFrame.decode_eq_ok.1 h
    have hlen : f.encode.length < 2 ^ 64 :=
      hdivides.length_encodeSections_lt hpayload rfl
        (length_encode_header_le (by decide) (by decide +kernel) hheader)
    rw [f.decode_encode hlen]
    exact ⟨rfl, rfl, section1, hdivides, hheader⟩

/-- A response header with its fields in reverse order, the offsets in a packed run, a field that
is not declared, and superfluous zero groups in its length and its number; then a body and some
more. -/
def ResponseFrame.disordered : Bytes :=
  [0x8a, 0x00, 0x1a, 0x02, 0x05, 0x06, 0x20, 0x01, 0x08, 0x87, 0x80, 0x00, 0x02, 0xaa, 0xbb, 0xff]

/-- A request header whose method comes in two parts, and no body. -/
def RequestFrame.scattered : Bytes :=
  [0x0c, 0x12, 0x03, 0x12, 0x01, 0x62, 0x08, 0x03, 0x12, 0x03, 0x0a, 0x01, 0x61]

theorem accepted_normalized_disordered :
    ResponseFrame.disordered.length < 2 ^ 63 ∧
      ResponseFrame.decode ResponseFrame.disordered = .ok ⟨⟨7, none, [5, 6]⟩, some [0xaa, 0xbb]⟩ ∧
      ResponseFrame.decode (ResponseFrame.encode ⟨⟨7, none, [5, 6]⟩, some [0xaa, 0xbb]⟩) =
        .ok ⟨⟨7, none, [5, 6]⟩, some [0xaa, 0xbb]⟩ ∧
      RequestFrame.scattered.length < 2 ^ 63 ∧
      RequestFrame.decode RequestFrame.scattered = .ok ⟨⟨3, some ⟨"a", "b"⟩, none⟩, []⟩ ∧
      RequestFrame.decode (RequestFrame.encode ⟨⟨3, some ⟨"a", "b"⟩, none⟩, []⟩) =
        .ok ⟨⟨3, some ⟨"a", "b"⟩, none⟩, []⟩ := by
  have hlength : ResponseFrame.disordered.length < 2 ^ 63 := by decide
  have hread : ResponseFrame.decode ResponseFrame.disordered =
      .ok ⟨⟨7, none, [5, 6]⟩, some [0xaa, 0xbb]⟩ := by decide +kernel
  have hlength' : RequestFrame.scattered.length < 2 ^ 63 := by decide
  have hread' : RequestFrame.decode RequestFrame.scattered =
      .ok ⟨⟨3, some ⟨"a", "b"⟩, none⟩, []⟩ := by decide +kernel
  exact ⟨hlength, hread, ((accepted_normalized _ hlength).2 _ hread).1, hlength', hread',
    ((accepted_normalized _ hlength').1 _ hread').1⟩

end ClusterProbe
