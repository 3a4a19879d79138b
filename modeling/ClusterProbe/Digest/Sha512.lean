import ClusterProbe.Bytes

/-!
# SHA-512

The digest of 64 bytes. Its constants are the first bits of the fractional parts of square and cube
roots of the first primes.
-/
namespace ClusterProbe.Sha512

def isPrime (n : Nat) : Bool :=
  2 ≤ n && (List.range n).all fun d => d < 2 || n % d ≠ 0

/-- The largest number below `2 ^ bits` whose `k`-th power is at most `n`. -/
def root (k n : Nat) : (bits : Nat) → Nat → Nat
  | 0, r => r
  | bits + 1, r => root k n bits (
    let next := r + Nat.pow 2 bits
    if Nat.pow next k ≤ n then next else r)

/-- The first 64 bits of the fractional part of the `k`-th root of a number below 512. -/
def rootFraction (k n : Nat) : UInt64 :=
  UInt64.ofNat (root k (n * Nat.pow 2 (64 * k)) 70 0)

def primes : List Nat :=
  (List.range 410).filter isPrime

def roundConstants : List UInt64 :=
  primes.map (rootFraction 3)

structure State where
  a : UInt64
  b : UInt64
  c : UInt64
  d : UInt64
  e : UInt64
  f : UInt64
  g : UInt64
  h : UInt64
  deriving DecidableEq, Repr

namespace State

def toList (s : State) : List UInt64 :=
  [s.a, s.b, s.c, s.d, s.e, s.f, s.g, s.h]

def ofList : List UInt64 → State
  | [a, b, c, d, e, f, g, h] => ⟨a, b, c, d, e, f, g, h⟩
  | _ => ⟨0, 0, 0, 0, 0, 0, 0, 0⟩

def initial : State :=
  ofList ((primes.take 8).map (rootFraction 2))

def add (s t : State) : State :=
  ofList (List.zipWith (· + ·) s.toList t.toList)

end State

def rotateRight (x : UInt64) (n : UInt64) : UInt64 :=
  (x >>> n) ||| (x <<< (64 - n))

/-- One round with its constant and its word of the message. -/
def round (s : State) (k : UInt64 × UInt64) : State :=
  let sum := fun (x i j l : UInt64) => rotateRight x i ^^^ rotateRight x j ^^^ rotateRight x l
  let choice := (s.e &&& s.f) ^^^ (~~~s.e &&& s.g)
  let majority := (s.a &&& s.b) ^^^ (s.a &&& s.c) ^^^ (s.b &&& s.c)
  let t := s.h + sum s.e 14 18 41 + choice + k.1 + k.2
  ⟨t + sum s.a 28 34 39 + majority, s.a, s.b, s.c, s.d + t, s.e, s.f, s.g⟩

/-- The words of a block: sixteen are given, each further one is made of four before it. -/
def schedule : (count : Nat) → Array UInt64 → Array UInt64
  | 0, w => w
  | count + 1, w =>
    let at' := fun n => w.getD (w.size - n) 0
    let small := fun (x i j l : UInt64) => rotateRight x i ^^^ rotateRight x j ^^^ (x >>> l)
    schedule count
      (w.push (small (at' 2) 19 61 6 + at' 7 + small (at' 15) 1 8 7 + at' 16))

/-- The words of a byte string, most significant byte first. -/
def words : (count : Nat) → Bytes → List UInt64
  | 0, _ => []
  | count + 1, bs => UInt64.ofNat (Bytes.bigEndianNat (bs.take 8)) :: words count (bs.drop 8)

def compress (s : State) (block : Bytes) : State :=
  let w := schedule 64 (words 16 block).toArray
  s.add ((roundConstants.zip w.toList).foldl round s)

/-- A byte string filled up to whole blocks: a one bit, zeros, and its length in bits. -/
def pad (bs : Bytes) : Bytes :=
  let zeros := (239 - bs.length % 128) % 128
  bs ++ 0x80 :: List.replicate zeros 0 ++ (Bytes.littleEndian 16 (8 * bs.length)).reverse

def blocks : (count : Nat) → Bytes → List Bytes
  | 0, _ => []
  | count + 1, bs => bs.take 128 :: blocks count (bs.drop 128)

def digest (bs : Bytes) : Bytes :=
  let padded := pad bs
  let state := (blocks (padded.length / 128) padded).foldl compress State.initial
  state.toList.flatMap fun w => (Bytes.littleEndian 8 w.toNat).reverse

end ClusterProbe.Sha512
