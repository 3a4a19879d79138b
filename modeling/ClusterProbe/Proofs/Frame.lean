import ClusterProbe.Frame
import ClusterProbe.Proofs.Protobuf.RoundTrip
import ClusterProbe.Proofs.Session.Framing

/-!
# Frames written and read back

A section behind its length is split off as it was written, and a header is read back by the round
trip of its message type; so a request and a response are read back from the payload they are
written as. A request that names no method is turned down for that, and a response without a body
stays one. Lengths are those of strings that fit into memory, below 2^64; four bytes carry those
from 1 up to 2^32.
-/
namespace ClusterProbe

open Protobuf

namespace Frame

theorem splitSection_delimited (part : String) (bs rest : Bytes) (hlen : bs.length < 2 ^ 64) :
    splitSection part (delimited bs ++ rest) = .ok (bs, rest) := by
  rw [splitSection, delimited, List.append_assoc, decodeVarint_encodeVarint _ hlen]
  simp only [take?_length]

theorem decodeSection_encode {M : Type} [Message M] (part : String)
    (hs : (Message.layout M).Sound) (hdepth : (Message.layout M).depth ≤ nestingBudget) (m : M)
    (hlen : (Message.encode m).length < 2 ^ 64) :
    decodeSection part M (Message.encode m) = .ok m := by
  rw [decodeSection, Message.decode_encode hs hdepth m hlen]
  rfl

theorem delimited_ne_nil (bs : Bytes) : delimited bs ≠ [] :=
  List.append_ne_nil_of_left_ne_nil (encodeVarint_ne_nil _) _

theorem encodeSections_ne_nil {M : Type} [Message M] (header : M) (body : Option Bytes) :
    encodeSections header body ≠ [] :=
  List.append_ne_nil_of_left_ne_nil (delimited_ne_nil _) _

/-- The header fits where the whole payload does. -/
theorem header_lt {M : Type} [Message M] {header : M} {body : Option Bytes} {bound : Nat}
    (h : (encodeSections header body).length < bound) : (Message.encode header).length < bound := by
  have hheader := length_le_delimited (Message.encode header)
  rw [encodeSections.eq_def, List.length_append] at h
  omega

/-- And so does the body. -/
theorem sections_lt {M : Type} [Message M] {header : M} {body : Bytes} {bound : Nat}
    (h : (encodeSections header (some body)).length < bound) :
    (Message.encode header).length < bound ∧ body.length < bound := by
  refine ⟨header_lt h, ?_⟩
  rw [encodeSections, List.length_append] at h
  have hbody := length_le_delimited body
  change _ + (delimited body).length < bound at h
  omega

/-- Four bytes carry a length there and back unless it is zero, which marks an empty frame. -/
theorem decodeLength_encodeLength {n : Nat} (h : Announced n) :
    decodeLength (Bytes.bigEndian32 (UInt32.ofNat n)) = some n := by
  rw [decodeLength, bigEndianNat_announced h]
  split
  · exact absurd h.1 (Nat.lt_irrefl 0)
  · rfl

end Frame

open ClusterProbe.Frame

namespace RequestFrame

/-- How a request is read once its header has been read. -/
theorem decode_delimited (header : RequestHeader) (rest : Bytes)
    (hheader : (Message.encode header).length < 2 ^ 64) :
    decode (delimited (Message.encode header) ++ rest) =
      if header.remoteMethod.isNone then .error .missingMethod
      else if rest.isEmpty then .ok ⟨header, []⟩
      else (splitSection "request body" rest).map fun body => ⟨header, body.1⟩ := by
  have hsection : decodeSection "request header" RequestHeader (Message.encode header) =
      .ok header := decodeSection_encode _ (by decide) (by decide) _ hheader
  simp only [decode, splitSection_delimited _ _ _ hheader, hsection, bind, Except.bind]
  cases splitSection "request body" rest <;> rfl

/-- A request that names a method is read back, whatever follows it. -/
theorem decode_encode (f : RequestFrame) (rest : Bytes)
    (hmethod : f.header.remoteMethod.isSome) (hlen : f.encode.length < 2 ^ 64) :
    decode (f.encode ++ rest) = .ok f := by
  obtain ⟨hheader, hbody⟩ := sections_lt hlen
  have hmore : (delimited f.body ++ rest).isEmpty = false :=
    List.isEmpty_eq_false_iff.mpr (List.append_ne_nil_of_left_ne_nil (delimited_ne_nil _) _)
  rw [encode, encodeSections, List.append_assoc]
  refine (decode_delimited f.header (delimited f.body ++ rest) hheader).trans ?_
  rw [Option.isNone_eq_false_iff.2 hmethod, hmore, splitSection_delimited _ _ _ hbody]
  rfl

/-- A request that names no method is turned down for that, whatever follows it. -/
theorem decode_encode_unnamed (f : RequestFrame) (rest : Bytes)
    (hmethod : f.header.remoteMethod = none) (hlen : f.encode.length < 2 ^ 64) :
    decode (f.encode ++ rest) = .error .missingMethod := by
  rw [encode, encodeSections, List.append_assoc]
  refine (decode_delimited f.header _ (header_lt hlen)).trans (if_pos ?_)
  rw [hmethod]
  rfl

theorem forMethod_decode_encode (callId : Int32) (method : RemoteMethod) (timeoutMillis : UInt32)
    (body rest : Bytes)
    (hlen : (forMethod callId method timeoutMillis body).encode.length < 2 ^ 64) :
    decode ((forMethod callId method timeoutMillis body).encode ++ rest) =
      .ok (forMethod callId method timeoutMillis body) :=
  decode_encode _ rest rfl hlen

end RequestFrame

namespace ResponseFrame

/-- How a response is read once its header has been read. -/
theorem decodeWithRest_delimited (header : ResponseHeader) (rest : Bytes)
    (hheader : (Message.encode header).length < 2 ^ 64) :
    decodeWithRest (delimited (Message.encode header) ++ rest) =
      if rest.isEmpty then .ok (⟨header, none⟩, [])
      else (splitSection "response body" rest).map fun body =>
        (⟨header, some body.1⟩, body.2) := by
  have hsection : decodeSection "response header" ResponseHeader (Message.encode header) =
      .ok header := decodeSection_encode _ (by decide) (by decide) _ hheader
  simp only [decodeWithRest, splitSection_delimited _ _ _ hheader, hsection, bind, Except.bind]
  cases splitSection "response body" rest <;> rfl

/-- A response with a body is read back, and what follows it is handed on. -/
theorem decodeWithRest_encode (header : ResponseHeader) (body rest : Bytes)
    (hlen : (encode ⟨header, some body⟩).length < 2 ^ 64) :
    decodeWithRest (encode ⟨header, some body⟩ ++ rest) = .ok (⟨header, some body⟩, rest) := by
  obtain ⟨hheader, hbody⟩ := sections_lt hlen
  have hmore : (delimited body ++ rest).isEmpty = false :=
    List.isEmpty_eq_false_iff.mpr (List.append_ne_nil_of_left_ne_nil (delimited_ne_nil _) _)
  rw [encode, encodeSections, List.append_assoc]
  refine (decodeWithRest_delimited header (delimited body ++ rest) hheader).trans ?_
  rw [hmore, splitSection_delimited _ _ _ hbody]
  rfl

/-- A response without a body ends after its header. -/
theorem decodeWithRest_encode_void (header : ResponseHeader)
    (hlen : (encode ⟨header, none⟩).length < 2 ^ 64) :
    decodeWithRest (encode ⟨header, none⟩) = .ok (⟨header, none⟩, []) :=
  decodeWithRest_delimited header [] (header_lt hlen)

theorem errorStatus_failure (callId : Int32) (status : ErrorStatus)
    (hlen : (Message.encode status).length < 2 ^ 64) :
    (failure callId status).errorStatus = .ok status :=
  decodeSection_encode _ (by decide) (by decide) status hlen

end ResponseFrame

/-- **Frames on the wire.** Every request that names a method is read back from its payload, and
every response that has a body, whatever bytes follow. A request that names none is turned down for
that. A response without a body is read back as one. The lengths that can stand in front of a
payload are those from 1 up to 2^32, and there each is read as it was written and only so. -/
theorem frames_round_trip :
    (∀ (f : RequestFrame) (rest : Bytes), f.encode.length < 2 ^ 64 →
      RequestFrame.decode (f.encode ++ rest) =
        if f.header.remoteMethod.isSome then .ok f else .error .missingMethod) ∧
    (∀ (header : ResponseHeader) (body rest : Bytes),
      (ResponseFrame.encode ⟨header, some body⟩).length < 2 ^ 64 →
        ResponseFrame.decode (ResponseFrame.encode ⟨header, some body⟩ ++ rest) =
          .ok ⟨header, some body⟩) ∧
    (∀ header : ResponseHeader, (ResponseFrame.encode ⟨header, none⟩).length < 2 ^ 64 →
      ResponseFrame.decode (ResponseFrame.encode ⟨header, none⟩) = .ok ⟨header, none⟩) ∧
    (∀ n, (∃ word, encodeLength n = .ok word ∧ decodeLength word = some n) ↔
      1 ≤ n ∧ n < 2 ^ 32) ∧
    ∀ (word : Bytes) (n : Nat), word.length = 4 → decodeLength word = some n →
      encodeLength n = .ok word := by
  refine ⟨fun f rest hlen => ?_, fun header body rest hlen => ?_, fun header hlen => ?_,
    fun n => ⟨?_, ?_⟩, fun word n hword h => ?_⟩
  · split
    · rename_i hmethod
      exact f.decode_encode rest hmethod hlen
    · rename_i hmethod
      exact f.decode_encode_unnamed rest (Option.not_isSome_iff_eq_none.1 hmethod) hlen
  · rw [ResponseFrame.decode, ResponseFrame.decodeWithRest_encode header body rest hlen]
    rfl
  · rw [ResponseFrame.decode, ResponseFrame.decodeWithRest_encode_void header hlen]
    rfl
  · rintro ⟨word, hwrite, hread⟩
    obtain ⟨-, rfl⟩ := encodeLength_eq_ok.1 hwrite
    exact (decodeLength_eq_some rfl hread).1
  · exact fun h => ⟨_, encodeLength_eq_ok.2 ⟨h.2, rfl⟩, decodeLength_encodeLength h⟩
  · obtain ⟨⟨-, hlt⟩, rfl⟩ := decodeLength_eq_some hword h
    exact encodeLength_eq_ok.2 ⟨hlt, rfl⟩

/-- A request under a negative number. -/
def RequestFrame.negative : RequestFrame :=
  .forMethod (-7) ⟨"yb.master.MasterService", "größe"⟩ 4294967295 [0, 255]

def ResponseHeader.negative : ResponseHeader := ⟨-7, some false, [3, 3, 0]⟩

theorem frames_round_trip_negative :
    RequestFrame.negative.encode.length < 2 ^ 64 ∧
      RequestFrame.decode (RequestFrame.negative.encode ++ [1, 2]) = .ok .negative ∧
      (ResponseFrame.encode ⟨.negative, some []⟩).length < 2 ^ 64 ∧
      ResponseFrame.decode (ResponseFrame.encode ⟨.negative, some []⟩ ++ [9]) =
        .ok ⟨.negative, some []⟩ ∧
      (ResponseFrame.encode ⟨.negative, none⟩).length < 2 ^ 64 ∧
      ResponseFrame.decode (ResponseFrame.encode ⟨.negative, none⟩) = .ok ⟨.negative, none⟩ ∧
      decodeLength [0, 0, 1, 2] = some 258 ∧ encodeLength 258 = .ok [0, 0, 1, 2] := by
  obtain ⟨hrequest, hbody, hvoid, -, hlength⟩ := frames_round_trip
  have hlen : RequestFrame.negative.encode.length ≤ 100 := by decide +kernel
  have hfull : (ResponseFrame.encode ⟨.negative, some []⟩).length ≤ 100 := by decide +kernel
  have hempty : (ResponseFrame.encode ⟨.negative, none⟩).length ≤ 100 := by decide +kernel
  have hlen := hlen.trans_lt (by norm_num : 100 < 2 ^ 64)
  have hfull := hfull.trans_lt (by norm_num : 100 < 2 ^ 64)
  have hempty := hempty.trans_lt (by norm_num : 100 < 2 ^ 64)
  have hword : decodeLength [0, 0, 1, 2] = some 258 := by decide +kernel
  exact ⟨hlen, hrequest .negative [1, 2] hlen, hfull, hbody .negative [] [9] hfull, hempty,
    hvoid .negative hempty, hword, hlength _ _ rfl hword⟩

end ClusterProbe
