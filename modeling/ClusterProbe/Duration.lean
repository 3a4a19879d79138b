import ClusterProbe.Decimal

/-!
# Durations

A length of time in seconds and nanoseconds. `Duration.text` shows it in the largest unit whose
whole part is not zero, with as many decimals as it takes.
-/
namespace ClusterProbe

structure Duration where
  seconds : Nat
  nanos : Nat
  deriving DecidableEq, Repr, Inhabited

namespace Duration

def nanosPerSecond : Nat := 1000000000

def ofSeconds (n : Nat) : Duration := ⟨n, 0⟩

def ofMillis (n : Nat) : Duration := ⟨n / 1000, n % 1000 * 1000000⟩

def totalNanos (d : Duration) : Nat :=
  d.seconds * nanosPerSecond + d.nanos

/-- A whole part and a fraction of `places` decimals, without trailing zeros. -/
def decimalText (whole places fraction : Nat) : String :=
  let digits := ((Nat.toDigits 10 fraction).leftpad places '0').reverse.dropWhile (· == '0')
  if digits.isEmpty then toString whole
  else toString whole ++ "." ++ String.ofList digits.reverse

def text (d : Duration) : String :=
  if 0 < d.seconds then decimalText d.seconds 9 d.nanos ++ "s"
  else if 1000000 ≤ d.nanos then
    decimalText (d.nanos / 1000000) 6 (d.nanos % 1000000) ++ "ms"
  else if 1000 ≤ d.nanos then decimalText (d.nanos / 1000) 3 (d.nanos % 1000) ++ "µs"
  else decimalText d.nanos 0 0 ++ "ns"

end Duration
end ClusterProbe
