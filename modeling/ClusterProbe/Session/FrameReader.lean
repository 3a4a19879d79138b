import ClusterProbe.Session.Error

/-!
# Reading one response frame

A response is read in two parts: the four bytes of its length, then as many bytes as they
announce. A length of zero stands for a frame that carries nothing; such frames are skipped. How a
stream is cut into pieces on its way makes no difference: `FrameReader.push` joins the pieces, and
`FrameReader.readFrom` takes from a buffer no byte beyond the frame.
-/
namespace ClusterProbe

/-- How much of a frame has been read. -/
inductive FrameReader where
  | word (got : Bytes)
  | payload (size : Nat) (got : Bytes)
  deriving DecidableEq, Repr

namespace FrameReader

def start : FrameReader := word []

/-- How many bytes complete the part that is being read. -/
def wanted : FrameReader → Nat
  | word got => 4 - got.length
  | payload size got => size - got.length

/-- Takes in some of the bytes that are wanted. -/
def push (chunk : Bytes) : FrameReader → FrameReader
  | word got =>
    if (got ++ chunk).length < 4 then word (got ++ chunk)
    else match Frame.decodeLength (got ++ chunk) with
      | none => start
      | some size => payload size []
  | payload size got => payload size (got ++ chunk)

/-- The payload, once it is all there. -/
def payload? : FrameReader → Option Bytes
  | word _ => none
  | payload size got => if size ≤ got.length then some got else none

/-- The payload, or the refusal of one that is announced to be longer than `limit`. -/
def outcome? (limit : Nat) : FrameReader → Option (Except ProtocolError Bytes)
  | word _ => none
  | payload size got =>
    if limit < size then some (.error (.wire (.size size)))
    else (payload size got).payload?.map .ok

/-- What it means that the stream ends here. -/
def endError (callId : Int32) : FrameReader → ProtocolError
  | word _ => .frameLength callId .earlyEof
  | payload size got => .shortRead got.length size

/-- What reading from a buffer leaves: the reader, the unread bytes, the empty frames passed. -/
structure Progress where
  reader : FrameReader
  rest : Bytes
  skipped : Nat

/-- Reads on from a buffer until it is used up or `stop` says that the frame is settled. -/
def readFrom (stop : FrameReader → Bool) (r : FrameReader) (buffer : Bytes) : Progress :=
  if h : stop r ∨ (buffer.take r.wanted).isEmpty then ⟨r, buffer, 0⟩
  else
    have : buffer.length - r.wanted < buffer.length := by
      simp only [List.isEmpty_iff, List.take_eq_nil_iff, not_or] at h
      have := List.length_pos_iff.2 h.2.2
      omega
    let next := r.push (buffer.take r.wanted)
    let p := readFrom stop next (buffer.drop r.wanted)
    { p with skipped := p.skipped + if next = start then 1 else 0 }
termination_by buffer.length

end FrameReader
end ClusterProbe
