import ClusterProbe.Bytes

/-!
# UTF-8

Reading and writing text as bytes. `decode?` takes well-formed UTF-8 only; `decodeLossy` puts
U+FFFD for each maximal ill-formed part, so every byte string has a text.
-/
namespace ClusterProbe.Utf8

def encode (s : String) : Bytes :=
  s.toByteArray.data.toList

def decode? (bs : Bytes) : Option String :=
  String.fromUTF8? ⟨bs.toArray⟩

/-- The continuation bytes that may follow a lead byte: how many, and the range of the first. -/
def followers (lead : UInt8) : Option (Nat × UInt8 × UInt8) :=
  if 0xC2 ≤ lead && lead ≤ 0xDF then some (1, 0x80, 0xBF)
  else if lead == 0xE0 then some (2, 0xA0, 0xBF)
  else if lead == 0xED then some (2, 0x80, 0x9F)
  else if 0xE1 ≤ lead && lead ≤ 0xEF then some (2, 0x80, 0xBF)
  else if lead == 0xF0 then some (3, 0x90, 0xBF)
  else if 0xF1 ≤ lead && lead ≤ 0xF3 then some (3, 0x80, 0xBF)
  else if lead == 0xF4 then some (3, 0x80, 0x8F)
  else none

/-- The bytes of a character that are still owed after its lead byte; `taken` counts those found
before the first one out of range. -/
def takeFollowers : (owed : Nat) → (lo hi : UInt8) → (value taken : Nat) → Bytes → Option Nat × Nat
  | 0, _, _, value, taken, _ => (some value, taken)
  | _ + 1, _, _, _, taken, [] => (none, taken)
  | owed + 1, lo, hi, value, taken, b :: rest =>
    if lo ≤ b && b ≤ hi then
      takeFollowers owed 0x80 0xBF (value * 64 + (b.toNat - 0x80)) (taken + 1) rest
    else (none, taken)

/-- The bits of the code point that a lead byte carries. -/
def leadBits (lead : UInt8) (owed : Nat) : Nat :=
  lead.toNat % Nat.pow 2 (6 - owed)

/-- The first character of a byte string, or U+FFFD for an ill-formed part, with the number of
bytes that it takes after the lead byte. -/
def decodeFirst (lead : UInt8) (rest : Bytes) : Char × Nat :=
  if lead < 0x80 then (Char.ofNat lead.toNat, 0)
  else match followers lead with
    | none => ('\uFFFD', 0)
    | some (owed, lo, hi) =>
      match takeFollowers owed lo hi (leadBits lead owed) 0 rest with
      | (some value, taken) => (Char.ofNat value, taken)
      | (none, taken) => ('\uFFFD', taken)

def decodeLossyChars : Bytes → List Char
  | [] => []
  | lead :: rest =>
    let (c, taken) := decodeFirst lead rest
    c :: decodeLossyChars (rest.drop taken)
termination_by bs => bs.length
decreasing_by simp only [List.length_drop, List.length_cons]; omega

def decodeLossy (bs : Bytes) : String :=
  String.ofList (decodeLossyChars bs)

end ClusterProbe.Utf8
