/-!
# Binary fractions

The exact value of a finite double: a sign and a natural number times a power of two. Texts of
numbers are worked out from it in exact arithmetic.
-/
namespace ClusterProbe.Decimal

/-- The value `mantissa * 2 ^ exponent`. The exponent is the one that the double is stored with, so
`lowest` marks the doubles whose neighbour below is as near as the one above. -/
structure Binary where
  negative : Bool
  mantissa : Nat
  exponent : Int
  deriving DecidableEq, Repr

namespace Binary

def ofFloat (x : Float) : Binary :=
  let bits : Nat := x.toBits.toNat
  let fraction : Nat := bits % Nat.pow 2 52
  let stored : Nat := bits / Nat.pow 2 52 % Nat.pow 2 11
  { negative := Nat.pow 2 63 ≤ bits
    mantissa := if stored = 0 then fraction else Nat.pow 2 52 + fraction
    exponent := if stored = 0 then -1074 else Int.ofNat stored - 1075 }

/-- The gap to the next double below is half of the gap above exactly at a power of two that is
not the smallest of its kind. -/
def halfGapBelow (b : Binary) : Bool :=
  b.mantissa == Nat.pow 2 52 && -1074 < b.exponent

def numerator (b : Binary) : Nat :=
  b.mantissa * Nat.pow 2 b.exponent.toNat

def denominator (b : Binary) : Nat :=
  Nat.pow 2 (-b.exponent).toNat

end Binary

/-- Rounds a quotient to the nearest whole number, a half to the even one. -/
def roundQuotient (num den : Nat) : Nat :=
  let whole := num / den
  let twice := 2 * (num % den)
  if twice < den then whole
  else if den < twice then whole + 1
  else if whole % 2 = 0 then whole else whole + 1

end ClusterProbe.Decimal
