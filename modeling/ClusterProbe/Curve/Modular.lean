/-!
# Arithmetic modulo a prime

Differences, inverses and multiples by doubling.
-/
namespace ClusterProbe.Curve

def subMod (m a b : Nat) : Nat :=
  (a + (m - b % m)) % m

/-- Euclid's algorithm; `s` and `t` times the number are `r` and `q` modulo `m`. -/
def inverseFrom (m r s q t : Nat) : Nat :=
  if h : q = 0 then s
  else
    have : r % q < q := Nat.mod_lt r (Nat.pos_of_ne_zero h)
    inverseFrom m q t (r % q) (subMod m s (r / q * t))
termination_by q

/-- The inverse of a number that has no divisor in common with `m`. -/
def inverseMod (m a : Nat) : Nat :=
  inverseFrom m m 0 (a % m) 1

def divMod (m a b : Nat) : Nat :=
  a * inverseMod m b % m

/-- The sum of `n` equal terms, by doubling. -/
def multiple {α : Type} (add : α → α → α) (zero a : α) (n : Nat) : α :=
  if h : n = 0 then zero
  else
    have : n / 2 < n := Nat.div_lt_self (Nat.pos_of_ne_zero h) (by decide)
    let rest := multiple add zero (add a a) (n / 2)
    if n % 2 = 1 then add a rest else rest
termination_by n

end ClusterProbe.Curve
