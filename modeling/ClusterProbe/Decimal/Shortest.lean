import ClusterProbe.Decimal.Binary

/-!
# The shortest decimal of a double

The decimal with the fewest digits that still reads back as the same double, and of those the one
nearest to it. The doubles around a value leave an interval of reals that round to it, ends
included when the mantissa is even; the first of the grids of 1, 2, … 17 digits with a point in
that interval gives the digits.
-/
namespace ClusterProbe.Decimal

/-- Positive reals that round to one double, all over the same denominator. -/
structure RoundingInterval where
  low : Nat
  value : Nat
  high : Nat
  den : Nat
  closed : Bool

namespace RoundingInterval

/-- Everything is scaled by four, so that half and quarter gaps are whole. -/
def ofBinary (b : Binary) : RoundingInterval :=
  let unit := Nat.pow 2 b.exponent.toNat
  let value := 4 * b.numerator
  { low := value - (if b.halfGapBelow then unit else 2 * unit)
    value
    high := value + 2 * unit
    den := 4 * b.denominator
    closed := b.mantissa % 2 = 0 }

/-- Whether `num / den'` lies in the interval. -/
def holds (i : RoundingInterval) (num den' : Nat) : Bool :=
  if i.closed then i.low * den' ≤ num * i.den && num * i.den ≤ i.high * den'
  else i.low * den' < num * i.den && num * i.den < i.high * den'

end RoundingInterval

def tenPower (e : Int) : Nat × Nat :=
  (Nat.pow 10 e.toNat, Nat.pow 10 (-e).toNat)

/-- How many digits the whole part of `num / den` has, or minus the number of zeros that follow the
point: the least `k` with `num / den < 10 ^ k`. -/
def decimalPlaces (num den : Nat) : Int :=
  if den ≤ num then (Nat.toDigits 10 (num / den)).length
  else
    let zeros := (Nat.toDigits 10 (den / num)).length - 1
    if Nat.pow 10 zeros * num < den then -(zeros : Int) else 1 - (zeros : Int)

/-- The better of the two points of the grid `10 ^ e` around a value, if one lies in the
interval. -/
def gridPoint? (i : RoundingInterval) (e : Int) : Option Nat :=
  let (up, down) := tenPower e
  let below := i.value * down / (i.den * up)
  let hit := fun d => i.holds (d * up) down
  let rest := i.value * down - below * (i.den * up)
  match hit below, hit (below + 1) with
  | true, true => some (if 2 * rest ≤ i.den * up then below else below + 1)
  | true, false => some below
  | false, true => some (below + 1)
  | false, false => none

/-- Digits and exponent of the shortest decimal `digits * 10 ^ exponent`. -/
def searchGrids (i : RoundingInterval) (places : Int) : (left : Nat) → Nat × Int
  | 0 => (0, 0)
  | left + 1 =>
    let e := places - (17 - left : Nat)
    match gridPoint? i e with
    | some d => (d, e)
    | none => searchGrids i places left

def dropTrailingZeros : (fuel : Nat) → Nat → Int → Nat × Int
  | 0, d, e => (d, e)
  | fuel + 1, d, e =>
    if d ≠ 0 ∧ d % 10 = 0 then dropTrailingZeros fuel (d / 10) (e + 1) else (d, e)

def shortest (b : Binary) : Nat × Int :=
  let i := RoundingInterval.ofBinary b
  let (d, e) := searchGrids i (decimalPlaces i.value i.den) 17
  dropTrailingZeros 20 d e

/-- How a number's text spells its exponent: `1e+16` or `1e16`. -/
structure FloatFormat where
  plusSign : Bool

/-- A whole number has one decimal. Positional from 1e-5 up to below 1e16, with an exponent
otherwise. -/
def shortestText (format : FloatFormat) (x : Float) : String :=
  let b := Binary.ofFloat x
  let sign := if b.negative then "-" else ""
  if b.mantissa = 0 then sign ++ "0.0"
  else
    let (d, e) := shortest b
    let digits := Nat.toDigits 10 d
    let point : Int := digits.length + e
    let body : List Char :=
      if 0 ≤ e ∧ point ≤ 16 then digits ++ List.replicate e.toNat '0' ++ ['.', '0']
      else if 0 < point ∧ point ≤ 16 then
        digits.take point.toNat ++ '.' :: digits.drop point.toNat
      else if -5 < point ∧ point ≤ 0 then
        '0' :: '.' :: List.replicate (-point).toNat '0' ++ digits
      else
        let exponent := point - 1
        let mark := if 0 ≤ exponent ∧ format.plusSign then ['e', '+'] else ['e']
        let head := match digits with
          | [] => []
          | [c] => [c]
          | c :: cs => c :: '.' :: cs
        head ++ mark ++ (toString exponent).toList
    sign ++ String.ofList body

/-- The value with two decimals, a half rounded to the even neighbour. -/
def twoPlaces (x : Float) : String :=
  let b := Binary.ofFloat x
  let hundredths := roundQuotient (100 * b.numerator) b.denominator
  (if b.negative then "-" else "") ++ toString (hundredths / 100) ++ "." ++
    (let n := hundredths % 100; if n < 10 then "0" ++ toString n else toString n)

end ClusterProbe.Decimal
