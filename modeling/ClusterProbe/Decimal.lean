/-!
# Decimal numbers

Reading runs of decimal digits. `digitsValue?` is the value of a non-empty run of ASCII digits of
any length; `natBelow?` also takes one leading `+` and refuses values at or above a bound.
-/
namespace ClusterProbe.Decimal

def isDigit (c : Char) : Bool :=
  '0' ≤ c && c ≤ '9'

theorem isDigit_iff {c : Char} : isDigit c = true ↔ 48 ≤ c.toNat ∧ c.toNat ≤ 57 := by
  rw [isDigit, Bool.and_eq_true, decide_eq_true_iff, decide_eq_true_iff]
  exact Iff.rfl

theorem isDigit_of_mem_toDigits {n : Nat} {c : Char} (h : c ∈ Nat.toDigits 10 n) :
    isDigit c = true := by
  have hdigit := Nat.isDigit_of_mem_toDigits (by decide) (by decide) h
  rw [Char.isDigit, Bool.and_eq_true, decide_eq_true_iff, decide_eq_true_iff] at hdigit
  exact isDigit_iff.2 hdigit

def digitValue (c : Char) : Nat :=
  c.toNat - '0'.toNat

/-- The value of a run of digits, most significant first. -/
def valueOf (cs : List Char) : Nat :=
  cs.foldl (fun n c => n * 10 + digitValue c) 0

theorem valueOf_toDigits (n : Nat) : valueOf (Nat.toDigits 10 n) = n := by
  have hvalue := Nat.ofDigitChars_ten_toDigits (n := n)
  unfold Nat.ofDigitChars at hvalue
  simpa only [valueOf, digitValue, Nat.mul_comm] using hvalue

def digitsValue? (cs : List Char) : Option Nat :=
  if !cs.isEmpty && cs.all isDigit then some (valueOf cs) else none

def dropPlus : List Char → List Char
  | '+' :: cs => cs
  | cs => cs

def natBelow? (bound : Nat) (cs : List Char) : Option Nat :=
  (digitsValue? (dropPlus cs)).filter (· < bound)

/-- Two decimal digits, with a leading zero where needed. -/
def twoDigits (n : Nat) : String :=
  if n < 10 then "0" ++ toString n else toString n

def padded (width n : Nat) : String :=
  String.ofList ((Nat.toDigits 10 n).leftpad width '0')

end ClusterProbe.Decimal
