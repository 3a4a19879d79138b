import ClusterProbe.Proofs.Frame
import ClusterProbe.Proofs.Protobuf.Reading

/-!
# Payloads cut short

What is read of a payload that ends too early. A cut inside a length leaves a varint without its
last byte, and a cut inside a section leaves fewer bytes than its length says; both are noticed. The
end of the header is the only place where a cut leaves something that can be read, as a response
without a body or a request with an empty one.
-/
namespace ClusterProbe

open Protobuf

namespace Frame

/-- What is wrong with the front of a section that is not there as a whole. -/
def shortfall (part : String) (content front : Bytes) : WireError :=
  let lengthSize := (encodeVarint content.length).length
  if front.length < lengthSize then .varintCorruption
  else .truncated part content.length (front.length - lengthSize)

theorem splitSection_cut {part : String} {content front : Bytes} (hlen : content.length < 2 ^ 64)
    (hfront : front <+: delimited content) (hcut : front.length < (delimited content).length) :
    splitSection part front = .error (shortfall part content front) := by
  rw [delimited, List.length_append] at hcut
  rw [splitSection, shortfall]
  split_ifs with hlength
  · have hword : front <+: encodeVarint content.length :=
      List.prefix_of_prefix_length_le hfront (List.prefix_append _ _) hlength.le
    rw [decodeVarint_cut hword hlength]
  · have hword : encodeVarint content.length <+: front :=
      List.prefix_of_prefix_length_le (List.prefix_append _ _) hfront (Nat.not_lt.1 hlength)
    obtain ⟨rest, rfl⟩ := hword
    rw [List.length_append] at hcut
    have hrest : take? content.length rest = none := take?_eq_none.2 (by omega)
    rw [decodeVarint_encodeVarint rest hlen]
    simp only [hrest, List.length_append, Nat.add_sub_cancel_left]

/-- Where a proper front of two parts can end. -/
theorem cut_cases {cut front back : Bytes} {inFirst atEnd inSecond : Prop}
    (hcut : cut <+: front ++ back) (hproper : cut ≠ front ++ back)
    (hfirst : cut <+: front → cut.length < front.length → inFirst)
    (hend : cut = front → atEnd)
    (hsecond : ∀ rest, cut = front ++ rest → rest ≠ [] → rest <+: back →
      rest.length < back.length → inSecond) :
    (cut.length < front.length → inFirst) ∧ (cut.length = front.length → atEnd) ∧
      (front.length < cut.length → inSecond) := by
  have hshort := lt_of_le_of_ne hcut.length_le (mt hcut.eq_of_length hproper)
  have hwithin (hle : cut.length ≤ front.length) : cut <+: front :=
    List.prefix_of_prefix_length_le hcut (List.prefix_append _ _) hle
  refine ⟨fun hless => hfirst (hwithin hless.le) hless, fun heq => ?_, fun hmore => ?_⟩
  · exact hend ((hwithin heq.le).eq_of_length heq)
  · obtain ⟨rest, rfl⟩ := List.prefix_of_prefix_length_le (List.prefix_append _ _) hcut hmore.le
    rw [List.length_append] at hmore hshort
    rw [List.length_append] at hshort
    have hrest : rest ≠ [] := List.length_pos_iff.1 (by omega)
    exact hsecond rest rfl hrest ((List.prefix_append_right_inj _).1 hcut) (by omega)

end Frame

open ClusterProbe.Frame

namespace ResponseFrame

variable {header : ResponseHeader}

theorem decode_cut_header {cut : Bytes} (hheader : (Message.encode header).length < 2 ^ 64)
    (hcut : cut <+: delimited (Message.encode header))
    (hshort : cut.length < (delimited (Message.encode header)).length) :
    decode cut = .error (shortfall "response header" (Message.encode header) cut) := by
  rw [decode, decodeWithRest, splitSection_cut hheader hcut hshort]
  rfl

/-- A response that ends after its header has no body. -/
theorem decode_header_only (hheader : (Message.encode header).length < 2 ^ 64) :
    decode (delimited (Message.encode header)) = .ok ⟨header, none⟩ := by
  have hread := decodeWithRest_delimited header [] hheader
  rw [List.append_nil] at hread
  exact congrArg (Except.map Prod.fst) hread

/-- The body of a response may be missing, but not in part. -/
theorem decode_cut_body {body cut : Bytes} (hlen : (encode ⟨header, some body⟩).length < 2 ^ 64)
    (hcut : cut <+: delimited body) (hshort : cut.length < (delimited body).length)
    (hne : cut ≠ []) :
    decode (delimited (Message.encode header) ++ cut) =
      .error (shortfall "response body" body cut) := by
  obtain ⟨hheader, hbody⟩ := sections_lt hlen
  rw [decode, decodeWithRest_delimited _ _ hheader, List.isEmpty_eq_false_iff.2 hne,
    splitSection_cut hbody hcut hshort]
  rfl

end ResponseFrame

namespace RequestFrame

variable {f : RequestFrame}

theorem decode_cut_header {cut : Bytes} (hheader : (Message.encode f.header).length < 2 ^ 64)
    (hcut : cut <+: delimited (Message.encode f.header))
    (hshort : cut.length < (delimited (Message.encode f.header)).length) :
    decode cut = .error (shortfall "request header" (Message.encode f.header) cut) := by
  rw [decode, splitSection_cut hheader hcut hshort]
  rfl

/-- A request that ends after its header has an empty body. -/
theorem decode_header_only (hmethod : f.header.remoteMethod.isSome)
    (hheader : (Message.encode f.header).length < 2 ^ 64) :
    decode (delimited (Message.encode f.header)) = .ok { f with body := [] } := by
  have hread := decode_delimited f.header [] hheader
  rw [List.append_nil, Option.isNone_eq_false_iff.2 hmethod] at hread
  exact hread

theorem decode_cut_body {cut : Bytes} (hmethod : f.header.remoteMethod.isSome)
    (hlen : f.encode.length < 2 ^ 64) (hcut : cut <+: delimited f.body)
    (hshort : cut.length < (delimited f.body).length) (hne : cut ≠ []) :
    decode (delimited (Message.encode f.header) ++ cut) =
      .error (shortfall "request body" f.body cut) := by
  obtain ⟨hheader, hbody⟩ := sections_lt hlen
  rw [decode_delimited _ _ hheader, Option.isNone_eq_false_iff.2 hmethod,
    List.isEmpty_eq_false_iff.2 hne, splitSection_cut hbody hcut hshort]
  rfl

end RequestFrame

/-- **Payloads cut short.** Every proper front of the payload of a response, or of a request that
names a method, is turned down for what it lacks of the section in which it ends, unless it ends
with the header: then it is read, with the header and without the body. -/
theorem truncation_detected :
    (∀ (f : ResponseFrame) (cut : Bytes), f.encode.length < 2 ^ 64 → cut <+: f.encode →
      cut ≠ f.encode →
        let header := Message.encode f.header
        (cut.length < (delimited header).length →
          ResponseFrame.decode cut = .error (shortfall "response header" header cut)) ∧
        (cut.length = (delimited header).length →
          ResponseFrame.decode cut = .ok { f with body := none }) ∧
        ((delimited header).length < cut.length → ∃ body, f.body = some body ∧
          ResponseFrame.decode cut =
            .error (shortfall "response body" body (cut.drop (delimited header).length)))) ∧
    ∀ (f : RequestFrame) (cut : Bytes), f.header.remoteMethod.isSome →
      f.encode.length < 2 ^ 64 → cut <+: f.encode → cut ≠ f.encode →
        let header := Message.encode f.header
        (cut.length < (delimited header).length →
          RequestFrame.decode cut = .error (shortfall "request header" header cut)) ∧
        (cut.length = (delimited header).length →
          RequestFrame.decode cut = .ok { f with body := [] }) ∧
        ((delimited header).length < cut.length →
          RequestFrame.decode cut =
            .error (shortfall "request body" f.body (cut.drop (delimited header).length))) := by
  constructor
  · rintro ⟨fields, body⟩ cut hlen hcut hproper header
    have hheader : header.length < 2 ^ 64 := header_lt hlen
    apply cut_cases hcut hproper
    · exact ResponseFrame.decode_cut_header hheader
    · rintro rfl
      exact ResponseFrame.decode_header_only hheader
    · rintro rest rfl hne hrest hshort
      cases body with
      | none => exact absurd hshort (Nat.not_lt_zero _)
      | some body =>
        rw [List.drop_left]
        exact ⟨body, rfl, ResponseFrame.decode_cut_body hlen hrest hshort hne⟩
  · intro f cut hmethod hlen hcut hproper header
    have hheader : header.length < 2 ^ 64 := header_lt hlen
    apply cut_cases hcut hproper
    · exact RequestFrame.decode_cut_header hheader
    · rintro rfl
      exact RequestFrame.decode_header_only hmethod hheader
    · rintro rest rfl hne hrest hshort
      rw [List.drop_left]
      exact RequestFrame.decode_cut_body hmethod hlen hrest hshort hne

/-- The length of a header of 53 bytes and the first four of them. -/
def RequestFrame.negativeCut : Bytes := RequestFrame.negative.encode.take 5

/-- A header with its length, and two bytes of the body behind it with its length. -/
def ResponseFrame.negativeCut : Bytes := (ResponseFrame.encode ⟨.negative, some [1, 2, 3]⟩).take 23

theorem truncation_detected_negative :
    (ResponseFrame.encode ⟨.negative, some [1, 2, 3]⟩).length < 2 ^ 64 ∧
      ResponseFrame.negativeCut <+: ResponseFrame.encode ⟨.negative, some [1, 2, 3]⟩ ∧
      ResponseFrame.negativeCut ≠ ResponseFrame.encode ⟨.negative, some [1, 2, 3]⟩ ∧
      ResponseFrame.decode ResponseFrame.negativeCut = .error (.truncated "response body" 3 2) ∧
      RequestFrame.negative.header.remoteMethod.isSome ∧
      RequestFrame.negative.encode.length < 2 ^ 64 ∧
      RequestFrame.negativeCut <+: RequestFrame.negative.encode ∧
      RequestFrame.negativeCut ≠ RequestFrame.negative.encode ∧
      RequestFrame.decode RequestFrame.negativeCut =
        .error (.truncated "request header" 53 4) := by
  have hlen : (ResponseFrame.encode ⟨.negative, some [1, 2, 3]⟩).length < 2 ^ 64 := by
    decide +kernel
  have hcut : ResponseFrame.negativeCut <+: ResponseFrame.encode ⟨.negative, some [1, 2, 3]⟩ :=
    List.take_prefix _ _
  have hproper : ResponseFrame.negativeCut ≠ ResponseFrame.encode ⟨.negative, some [1, 2, 3]⟩ := by
    decide +kernel
  have hmethod : RequestFrame.negative.header.remoteMethod.isSome := rfl
  have hlen' : RequestFrame.negative.encode.length < 2 ^ 64 := by decide +kernel
  have hcut' : RequestFrame.negativeCut <+: RequestFrame.negative.encode := List.take_prefix _ _
  have hproper' : RequestFrame.negativeCut ≠ RequestFrame.negative.encode := by decide +kernel
  obtain ⟨-, -, hbody⟩ := truncation_detected.1 _ _ hlen hcut hproper
  obtain ⟨hheader, -, -⟩ := truncation_detected.2 _ _ hmethod hlen' hcut' hproper'
  obtain ⟨body, heq, hbody⟩ := hbody (by decide +kernel)
  obtain rfl : [1, 2, 3] = body := Option.some.inj heq
  refine ⟨hlen, hcut, hproper, hbody.trans (congrArg _ ?_), hmethod, hlen', hcut', hproper',
    (hheader (by decide +kernel)).trans (congrArg _ ?_)⟩
  · decide +kernel
  · decide +kernel

end ClusterProbe
