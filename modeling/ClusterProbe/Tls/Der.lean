import ClusterProbe.Bytes

/-!
# DER

Values with a tag and a length in front. Reading takes the shortest form of a length only, one-byte
tags and values of less than 64 KiB; writing puts the same form in front of a content.
-/
namespace ClusterProbe.Der

namespace Tag

def integer : UInt8 := 0x02
def bitString : UInt8 := 0x03
def octetString : UInt8 := 0x04
def null : UInt8 := 0x05
def objectId : UInt8 := 0x06
def sequence : UInt8 := 0x30

/-- The tag of a structure that is told by its number. -/
def context (number : Nat) : UInt8 := UInt8.ofNat (0xA0 + number)

end Tag

def length? : Bytes → Option (Nat × Bytes)
  | [] => none
  | b :: bs =>
    if b < 0x80 then some (b.toNat, bs)
    else if b = 0x81 ∧ 1 ≤ bs.length then
      let n := Bytes.bigEndianNat (bs.take 1)
      if 0x80 ≤ n then some (n, bs.drop 1) else none
    else if b = 0x82 ∧ 2 ≤ bs.length then
      let n := Bytes.bigEndianNat (bs.take 2)
      if 0x100 ≤ n then some (n, bs.drop 2) else none
    else none

/-- The first value: its tag, its content, and what follows it. -/
def value? : Bytes → Option (UInt8 × Bytes × Bytes)
  | [] => none
  | tag :: bs =>
    if tag &&& 0x1F = 0x1F then none
    else
      match length? bs with
      | some (n, rest) => if n ≤ rest.length then some (tag, rest.take n, rest.drop n) else none
      | none => none

/-- The content of the first value, which has to have a tag, and what follows it. -/
def expect? (tag : UInt8) (bs : Bytes) : Option (Bytes × Bytes) :=
  match value? bs with
  | some (t, content, rest) => if t = tag then some (content, rest) else none
  | none => none

/-- The content of a value that nothing follows. -/
def whole? (tag : UInt8) (bs : Bytes) : Option Bytes :=
  match expect? tag bs with
  | some (content, []) => some content
  | _ => none

/-- Passes over the first value if it has a tag. -/
def skip (tag : UInt8) (bs : Bytes) : Bytes :=
  ((expect? tag bs).map Prod.snd).getD bs

/-- The bytes of a positive number without superfluous zeros. -/
def positive? (bs : Bytes) : Option (Nat × Bytes) := do
  let (content, rest) ← expect? Tag.integer bs
  match content with
  | [] => none
  | [0] => none
  | 0 :: b :: _ => if b < 0x80 then none else some (Bytes.bigEndianNat content, rest)
  | b :: _ => if b < 0x80 then some (Bytes.bigEndianNat content, rest) else none

def small? (bs : Bytes) : Option (Nat × Bytes) := do
  let (content, rest) ← expect? Tag.integer bs
  match content with
  | [b] => if b < 0x80 then some (b.toNat, rest) else none
  | _ => none

def bytesOfBits? (bs : Bytes) : Option (Bytes × Bytes) := do
  let (content, rest) ← expect? Tag.bitString bs
  match content with
  | 0 :: bytes => some (bytes, rest)
  | _ => none

def encodeLength (n : Nat) : Bytes :=
  if n < 0x80 then [UInt8.ofNat n]
  else if n < 0x100 then [0x81, UInt8.ofNat n]
  else [0x82, UInt8.ofNat (n / 0x100), UInt8.ofNat n]

def encode (tag : UInt8) (content : Bytes) : Bytes :=
  tag :: encodeLength content.length ++ content

/-- The bytes of a number, most significant first, without leading zeros. -/
def naturalBytes (n : Nat) : Bytes :=
  if n < 256 then [UInt8.ofNat n] else naturalBytes (n / 256) ++ [UInt8.ofNat n]

/-- A positive number; a zero keeps the first bit clear. -/
def encodePositive (n : Nat) : Bytes :=
  let bs := naturalBytes n
  encode Tag.integer (if bs.head?.any (0x80 ≤ ·) then 0 :: bs else bs)

def encodeBits (bs : Bytes) : Bytes :=
  encode Tag.bitString (0 :: bs)

end ClusterProbe.Der
