import ClusterProbe.Curve.Modular
import ClusterProbe.Digest.Sha512

/-!
# The Edwards curve of 255 bits

Points of `-x² + y² = 1 + d x² y²`, and how the public key comes from a private seed: half of the
digest of the seed is a multiple of the base point, with some of its bits set and cleared.
-/
namespace ClusterProbe.Curve.Edwards

def prime : Nat := Nat.pow 2 255 - 19

def d : Nat := divMod prime (prime - 121665) 121666

def base : Nat × Nat :=
  (15112221349535400772501151409588531511454012693041857206046113283949847762202,
    46316835694926478169428394003475163141307993866256225615783033603165251855960)

def add (p q : Nat × Nat) : Nat × Nat :=
  let k := d * (p.1 * q.1 % prime) % prime * (p.2 * q.2 % prime) % prime
  (divMod prime (p.1 * q.2 + p.2 * q.1) (1 + k),
    divMod prime (p.2 * q.2 + p.1 * q.1) (subMod prime 1 k))

/-- The multiple of the base point that a seed stands for. -/
def scalar (seed : Bytes) : Nat :=
  let n := Bytes.littleEndianNat ((Sha512.digest seed).take 32)
  Nat.pow 2 254 + n % Nat.pow 2 254 / 8 * 8

/-- The second coordinate, with the lowest bit of the first in the highest place. -/
def encode (p : Nat × Nat) : Bytes :=
  Bytes.littleEndian 32 (p.2 + p.1 % 2 * Nat.pow 2 255)

def publicKey (seed : Bytes) : Bytes :=
  encode (multiple add (0, 1) base (scalar seed))

end ClusterProbe.Curve.Edwards
