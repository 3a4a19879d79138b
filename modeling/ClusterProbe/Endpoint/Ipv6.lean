import ClusterProbe.Decimal

/-!
# IPv6 literals

The text form of an IPv6 address: eight groups of one to four hexadecimal digits separated by
colons, where the last two groups may be written as an IPv4 address and one run of at least one
zero group may be written `::`. `isLiteral` decides whether a text is one.
-/
namespace ClusterProbe.Ipv6

def isHexDigit (c : Char) : Bool :=
  ('0' ≤ c && c ≤ '9') || ('a' ≤ c && c ≤ 'f') || ('A' ≤ c && c ≤ 'F')

def isGroup (cs : List Char) : Bool :=
  !cs.isEmpty && cs.length ≤ 4 && cs.all isHexDigit

/-- A number below 256 in at most three digits, without leading zeros. -/
def isOctet (cs : List Char) : Bool :=
  !cs.isEmpty && cs.length ≤ 3 && cs.all Decimal.isDigit && Decimal.valueOf cs < 256 &&
    (cs.length == 1 || cs.head? != some '0')

def isDottedQuad (cs : List Char) : Bool :=
  let parts := cs.splitOn '.'
  parts.length == 4 && parts.all isOctet

/-- The colon-separated parts of a text; the empty text has none. -/
def parts (cs : List Char) : List (List Char) :=
  if cs.isEmpty then [] else cs.splitOn ':'

/-- How many 16-bit groups a list of parts stands for. A dotted quad stands for two, and may only
come last. -/
def groupCount? (quadAllowed : Bool) : List (List Char) → Option Nat
  | [] => some 0
  | [p] =>
    if isGroup p then some 1 else if quadAllowed && isDottedQuad p then some 2 else none
  | p :: ps => if isGroup p then (groupCount? quadAllowed ps).map (· + 1) else none

def splitElision : List Char → Option (List Char × List Char)
  | ':' :: ':' :: rest => some ([], rest)
  | c :: rest => (splitElision rest).map fun (a, b) => (c :: a, b)
  | [] => none

def isLiteral (cs : List Char) : Bool :=
  match splitElision cs with
  | none => groupCount? true (parts cs) == some 8
  | some (before, after) =>
    match groupCount? false (parts before), groupCount? true (parts after) with
    | some a, some b => a + b ≤ 7
    | _, _ => false

end ClusterProbe.Ipv6
