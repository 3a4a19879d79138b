import ClusterProbe.Decimal
import ClusterProbe.Endpoint.Ipv6
import ClusterProbe.Uuid

/-!
# Plain scalars in YAML 1.2

What an unquoted scalar stands for: null, a truth value, a whole number, a finite decimal, or else
its own text. A digit run with a leading zero is text. A writer quotes every text that an unquoted
scalar would not give back.
-/
namespace ClusterProbe.Yaml

def isNull (s : String) : Bool :=
  s == "null" || s == "Null" || s == "NULL" || s == "~"

def bool? (s : String) : Option Bool :=
  if s == "true" || s == "True" || s == "TRUE" then some true
  else if s == "false" || s == "False" || s == "FALSE" then some false
  else none

/-- Drops the given characters, if the text starts with them. -/
def dropLead? (lead cs : List Char) : Option (List Char) :=
  if lead.isPrefixOf cs then some (cs.drop lead.length) else none

/-- A digit run with superfluous leading zeros, signed or not, is a text. -/
def isZeroPadded (cs : List Char) : Bool :=
  let body := match cs with
    | '-' :: r => r
    | '+' :: r => r
    | r => r
  1 < body.length && body.head? == some '0' && body.all Decimal.isDigit

def digitBelow (radix : Nat) (c : Char) : Bool :=
  Ipv6.isHexDigit c && Uuid.hexValue c < radix

/-- The value of a non-empty digit run in a radix up to 16. -/
def radixValue? (radix : Nat) (cs : List Char) : Option Nat :=
  if !cs.isEmpty && cs.all (digitBelow radix) then
    some (cs.foldl (fun n c => n * radix + Uuid.hexValue c) 0)
  else none

/-- The value of a number with a radix mark `0x`, `0o` or `0b`. -/
def markedValue? (cs : List Char) : Option Nat :=
  match cs with
  | '0' :: 'x' :: r => radixValue? 16 r
  | '0' :: 'o' :: r => radixValue? 8 r
  | '0' :: 'b' :: r => radixValue? 2 r
  | _ => none

/-- The value of an unsigned whole number below a bound. -/
def unsigned? (bound : Nat) (s : String) : Option Nat :=
  let cs := s.toList
  let body := match cs with
    | '+' :: r => r
    | r => r
  match (markedValue? body).filter (· < bound) with
  | some n => some n
  | none =>
    if isZeroPadded cs then none else (radixValue? 10 body).filter (· < bound)

/-- The absolute value of a whole number with a minus sign, at most a bound. -/
def negated? (bound : Nat) (s : String) : Option Nat :=
  match s.toList with
  | '-' :: body =>
    match (markedValue? body).filter (· ≤ bound) with
    | some n => some n
    | none =>
      if isZeroPadded ('-' :: body) then none else (radixValue? 10 body).filter (· ≤ bound)
  | _ => none

/-- Whole numbers have at most 128 bits. -/
def isInteger (s : String) : Bool :=
  (unsigned? (Nat.pow 2 128) s).isSome || (negated? (Nat.pow 2 127) s).isSome

/-- The digits and the decimal exponent of an unsigned decimal: digits with at most one point, at
least one digit, then perhaps an exponent. -/
def decimalParts? (cs : List Char) : Option (List Char × Int) :=
  let whole := cs.takeWhile Decimal.isDigit
  let rest := cs.drop whole.length
  let (fraction, rest) := match rest with
    | '.' :: r =>
      let ds := r.takeWhile Decimal.isDigit
      (ds, r.drop ds.length)
    | r => ([], r)
  let digits := whole ++ fraction
  if digits.isEmpty then none
  else match rest with
    | [] => some (digits, -(fraction.length : Int))
    | e :: r =>
      if e == 'e' || e == 'E' then
        let (negative, ds) := match r with
          | '+' :: ds => (false, ds)
          | '-' :: ds => (true, ds)
          | ds => (false, ds)
        (Decimal.digitsValue? ds).map fun n =>
          (digits, (if negative then -(n : Int) else (n : Int)) - fraction.length)
      else none

/-- The double nearest to a decimal, with a minus sign or without a sign. -/
def decimal? (s : String) : Option Float :=
  let (negative, cs) := match s.toList with
    | '-' :: cs => (true, cs)
    | cs => (false, cs)
  (decimalParts? cs).map fun (digits, e) =>
    let x := Float.ofScientific (Decimal.valueOf digits) (decide (e < 0)) e.natAbs
    if negative then -x else x

/-- The first decimal that is too large for a double is the midpoint above the largest one. -/
def decimalFits (digits : List Char) (exponent : Int) : Bool :=
  let m := Decimal.valueOf digits
  let size : Int := (Nat.toDigits 10 m).length + exponent
  if m == 0 || size < 300 then true
  else if 310 < size then false
  else m * Nat.pow 10 exponent.toNat <
    (Nat.pow 2 1024 - Nat.pow 2 970) * Nat.pow 10 (-exponent).toNat

/-- Decimals, signed or not, and the names of infinity and of no number. -/
def isFloat (s : String) : Bool :=
  let cs := s.toList
  let body := match cs with
    | '+' :: '+' :: _ => []
    | '+' :: '-' :: _ => []
    | '+' :: r => r
    | r => r
  let unsigned := match body with
    | '-' :: r => r
    | '+' :: r => r
    | r => r
  [".inf", ".Inf", ".INF"].contains (String.ofList body) ||
    ["-.inf", "-.Inf", "-.INF", ".nan", ".NaN", ".NAN"].contains s ||
    match decimalParts? unsigned with
    | some (digits, exponent) => decimalFits digits exponent
    | none => false

/-- Texts that an unquoted scalar would not give back. -/
def isAmbiguous (s : String) : Bool :=
  s.isEmpty || isNull s || (bool? s).isSome || isInteger s || isZeroPadded s.toList || isFloat s

end ClusterProbe.Yaml
