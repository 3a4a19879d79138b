import ClusterProbe.Bytes
import ClusterProbe.Curve.Modular

/-!
# Short Weierstrass curves

Points of a curve `y² = x³ - 3x + b` over a prime field, as private and public keys use them. The
two standard curves of 256 and 384 bits are given.
-/
namespace ClusterProbe.Curve

structure Weierstrass where
  size : Nat
  prime : Nat
  order : Nat
  base : Nat × Nat

namespace Weierstrass

/-- A point with its coordinates; nothing stands for the neutral point. -/
abbrev Point := Option (Nat × Nat)

variable (c : Weierstrass)

/-- The third point of the line through two points with a slope, reflected. -/
def third (slope : Nat) (p q : Nat × Nat) : Nat × Nat :=
  let x := subMod c.prime (slope * slope) (p.1 + q.1)
  (x, subMod c.prime (slope * subMod c.prime p.1 x) p.2)

def add : Point → Point → Point
  | none, q => q
  | p, none => p
  | some p, some q =>
    if p.1 ≠ q.1 then
      some (c.third (divMod c.prime (subMod c.prime q.2 p.2) (subMod c.prime q.1 p.1)) p q)
    else if p.2 = q.2 ∧ p.2 ≠ 0 then
      some (c.third (divMod c.prime (3 * subMod c.prime (p.1 * p.1) 1) (2 * p.2)) p q)
    else none

/-- The bytes of a number, most significant first. -/
def coordinateBytes (n : Nat) : Bytes :=
  (Bytes.littleEndian c.size n).reverse

/-- The public point of a private number, uncompressed. The number lies below the order. -/
def publicPoint? (secret : Nat) : Option Bytes :=
  if secret = 0 ∨ c.order ≤ secret then none
  else
    (multiple c.add none (some c.base) secret).map fun (x, y) =>
      0x04 :: c.coordinateBytes x ++ c.coordinateBytes y

end Weierstrass

def p256 : Weierstrass where
  size := 32
  prime := 0xffffffff00000001000000000000000000000000ffffffffffffffffffffffff
  order := 0xffffffff00000000ffffffffffffffffbce6faada7179e84f3b9cac2fc632551
  base := (0x6b17d1f2e12c4247f8bce6e563a440f277037d812deb33a0f4a13945d898c296,
    0x4fe342e2fe1a7f9b8ee7eb4a7c0f9e162bce33576b315ececbb6406837bf51f5)

/-- The numbers are written in halves of 24 bytes. -/
def p384 : Weierstrass where
  size := 48
  prime :=
    0xffffffffffffffffffffffffffffffffffffffffffffffff <<< 192 +
      0xfffffffffffffffeffffffff0000000000000000ffffffff
  order :=
    0xffffffffffffffffffffffffffffffffffffffffffffffff <<< 192 +
      0xc7634d81f4372ddf581a0db248b0a77aecec196accc52973
  base :=
    (0xaa87ca22be8b05378eb1c71ef320ad746e1d3b628ba79b98 <<< 192 +
        0x59f741e082542a385502f25dbf55296c3a545e3872760ab7,
      0x3617de4a96262c6f5d9e98bf9292dc29f8f41dbd289a147c <<< 192 +
        0xe9da3113b5f0b8c00a60b1ce1d7e819d7a431d7c90ea0e5f)

end ClusterProbe.Curve
