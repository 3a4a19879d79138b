/-!
# Byte strings

Everything that travels over a connection is a list of bytes. Fixed-width numbers are written
most significant byte first (`bigEndian32`) or least significant byte first (`littleEndian64`).
-/
namespace ClusterProbe

abbrev Bytes := List UInt8

namespace Bytes

/-- The four bytes of a 32-bit word, most significant first. -/
def bigEndian32 (n : UInt32) : Bytes :=
  [(n >>> 24).toUInt8, (n >>> 16).toUInt8, (n >>> 8).toUInt8, n.toUInt8]

/-- The number that a byte string spells, most significant byte first. -/
def bigEndianNat (bs : Bytes) : Nat :=
  bs.foldl (fun n b => n * 256 + b.toNat) 0

/-- The `count` low bytes of a number, least significant first. -/
def littleEndian : (count : Nat) → Nat → Bytes
  | 0, _ => []
  | count + 1, n => UInt8.ofNat n :: littleEndian count (n / 256)

/-- The number that a byte string spells, least significant byte first. -/
def littleEndianNat (bs : Bytes) : Nat :=
  bs.foldr (fun b n => b.toNat + 256 * n) 0

def hexPair (b : UInt8) : String :=
  String.ofList ((Nat.toDigits 16 b.toNat).leftpad 2 '0')

def hexText (bs : Bytes) : String :=
  String.join (bs.map hexPair)

def hexValue? (c : Char) : Option Nat :=
  if '0' ≤ c ∧ c ≤ '9' then some (c.toNat - '0'.toNat)
  else if 'a' ≤ c ∧ c ≤ 'f' then some (c.toNat - 'a'.toNat + 10)
  else if 'A' ≤ c ∧ c ≤ 'F' then some (c.toNat - 'A'.toNat + 10)
  else none

/-- The bytes that pairs of hexadecimal digits spell. -/
def ofHex? : List Char → Option Bytes
  | [] => some []
  | a :: b :: cs => do
    let n := (← hexValue? a) * 16 + (← hexValue? b)
    return UInt8.ofNat n :: (← ofHex? cs)
  | [_] => none

end Bytes
end ClusterProbe
