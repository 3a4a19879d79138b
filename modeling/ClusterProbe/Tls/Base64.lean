import ClusterProbe.Bytes

/-!
# Base64

Bytes as letters, six bits each. White space may stand anywhere. Letters are taken in blocks of
eight; the last block may have only four, and may end in one or two padding signs.
-/
namespace ClusterProbe.Base64

inductive DecodeError where
  | invalidCharacter (byte : UInt8)
  | prematurePadding
  | invalidTrailingPadding
  deriving DecidableEq, Repr

namespace DecodeError

def message : DecodeError → String
  | invalidCharacter byte => s!"InvalidCharacter({byte.toNat})"
  | prematurePadding => "PrematurePadding"
  | invalidTrailingPadding => "InvalidTrailingPadding"

end DecodeError

def alphabet : List Char :=
  "ABCDEFGHIJKLMNOPQRSTUVWXYZabcdefghijklmnopqrstuvwxyz0123456789+/".toList

def value? (byte : UInt8) : Option Nat :=
  alphabet.findIdx? fun c => c.toNat == byte.toNat

def isSpace (byte : UInt8) : Bool :=
  (9 ≤ byte && byte ≤ 13) || byte == 32

def padding : UInt8 := 61

/-- The bytes in the first bits of some letters. -/
def bytes (count : Nat) (letters : List Nat) : Bytes :=
  let bits := letters.foldl (fun n v => n * 64 + v) 0
  (List.range count).map fun i => UInt8.ofNat (bits / Nat.pow 2 (6 * letters.length - 8 * (i + 1)))

/-- The last block, in which nothing stands for a padding sign. -/
def decodeLast (block : List (Option Nat)) : Except DecodeError Bytes :=
  let letters := block.takeWhile Option.isSome
  let pads := block.length - letters.length
  if block.isEmpty then .ok []
  else if (block.length = 4 ∨ block.length = 8) ∧ pads ≤ 2 ∧
      (block.drop letters.length).all Option.isNone then
    .ok (bytes (block.length / 4 * 3 - pads) (block.map (·.getD 0)))
  else .error .invalidTrailingPadding

/-- Decodes what follows the letters of a block. -/
def decodeFrom (block : List (Option Nat)) : Bytes → Except DecodeError Bytes
  | [] => decodeLast block
  | b :: bs =>
    if isSpace b then decodeFrom block bs
    else if b ≠ padding ∧ (value? b).isNone then .error (.invalidCharacter b)
    else if block.length < 8 then decodeFrom (block ++ [value? b]) bs
    else if block.all Option.isSome then
      (decodeFrom [value? b] bs).map (bytes 6 (block.map (·.getD 0)) ++ ·)
    else .error .prematurePadding

def decode (bs : Bytes) : Except DecodeError Bytes :=
  decodeFrom [] bs

end ClusterProbe.Base64
