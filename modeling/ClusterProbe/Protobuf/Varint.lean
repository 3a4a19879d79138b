import ClusterProbe.Bytes

/-!
# Varints

A number below 2^64 is written in groups of seven bits, the lowest group first; every byte but the
last has its top bit set. Reading takes any spelling of at most ten bytes whose value fits into 64
bits, so also one with superfluous zero groups.
-/
namespace ClusterProbe.Protobuf

def encodeVarint (n : Nat) : Bytes :=
  if n < 128 then [UInt8.ofNat n]
  else UInt8.ofNat (n % 128 + 128) :: encodeVarint (n / 128)
termination_by n
decreasing_by omega

/-- Reads at most `room` bytes; the last of ten can only add the 64th bit. -/
def readVarint : (room : Nat) → Bytes → Option (Nat × Bytes)
  | 0, _ => none
  | _ + 1, [] => none
  | room + 1, b :: bs =>
    if b < 128 then
      if room == 0 && 1 < b then none else some (b.toNat, bs)
    else (readVarint room bs).map fun (n, rest) => (b.toNat % 128 + 128 * n, rest)

/-- The number at the front of a byte string, and what follows it. -/
def decodeVarint (bs : Bytes) : Option (Nat × Bytes) :=
  readVarint 10 bs

def delimited (bs : Bytes) : Bytes :=
  encodeVarint bs.length ++ bs

end ClusterProbe.Protobuf
