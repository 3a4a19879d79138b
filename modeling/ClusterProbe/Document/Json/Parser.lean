import ClusterProbe.Decimal
import ClusterProbe.Uuid

/-!
# Reading JSON

A strict reader: no text after the value, no trailing commas, no leading zeros, no control
characters in strings. A string whose escapes leave half of a surrogate pair alone is
well-formed JSON but has no text.
-/
namespace ClusterProbe

inductive JsonNode where
  | null
  | bool (b : Bool)
  | number (literal : List Char)
  | text (value : Option String)
  | list (items : List JsonNode)
  | record (fields : List (Option String × JsonNode))
  deriving Inhabited

namespace JsonNode

def skipBlank (cs : List Char) : List Char :=
  cs.dropWhile fun c => c == ' ' || c == '\t' || c == '\n' || c == '\r'

def fourHex? (cs : List Char) : Option (Nat × List Char) :=
  match cs with
  | a :: b :: c :: d :: rest =>
    if [a, b, c, d].all Ipv6.isHexDigit then
      some ([a, b, c, d].foldl (fun n x => n * 16 + Uuid.hexValue x) 0, rest)
    else none
  | _ => none

def isHighSurrogate (n : Nat) : Bool := 0xD800 ≤ n && n < 0xDC00

def isLowSurrogate (n : Nat) : Bool := 0xDC00 ≤ n && n < 0xE000

/-- The characters of one escape, after the backslash; none of them when it is half a pair. -/
def escape? : List Char → Option (Option Char × List Char)
  | '"' :: cs => some (some '"', cs)
  | '\\' :: cs => some (some '\\', cs)
  | '/' :: cs => some (some '/', cs)
  | 'b' :: cs => some (some '\x08', cs)
  | 'f' :: cs => some (some '\x0c', cs)
  | 'n' :: cs => some (some '\n', cs)
  | 'r' :: cs => some (some '\r', cs)
  | 't' :: cs => some (some '\t', cs)
  | 'u' :: cs => do
    let (n, rest) ← fourHex? cs
    if isHighSurrogate n then
      match rest with
      | '\\' :: 'u' :: more =>
        let (m, after) ← fourHex? more
        if isLowSurrogate m then
          some (some (Char.ofNat (0x10000 + (n - 0xD800) * 0x400 + (m - 0xDC00))), after)
        else some (none, rest)
      | _ => some (none, rest)
    else if isLowSurrogate n then some (none, rest)
    else some (some (Char.ofNat n), rest)
  | _ => none

/-- The rest of a string after its opening quote. -/
def stringBody? : (fuel : Nat) → List Char → Option (Option (List Char) × List Char)
  | 0, _ => none
  | fuel + 1, cs =>
    match cs with
    | [] => none
    | '"' :: rest => some (some [], rest)
    | '\\' :: rest => do
      let (c, rest) ← escape? rest
      let (s, rest) ← stringBody? fuel rest
      some ((c.bind fun c => s.map (c :: ·)), rest)
    | c :: rest =>
      if c.toNat < 0x20 then none
      else do
        let (s, rest) ← stringBody? fuel rest
        some (s.map (c :: ·), rest)

def string? (cs : List Char) : Option (Option String × List Char) :=
  match cs with
  | '"' :: rest => (stringBody? rest.length rest).map fun (s, r) => (s.map String.ofList, r)
  | _ => none

def digits? (cs : List Char) : Option (List Char × List Char) :=
  let ds := cs.takeWhile Decimal.isDigit
  if ds.isEmpty then none else some (ds, cs.drop ds.length)

def wholePart? (cs : List Char) : Option (List Char × List Char) := do
  let (ds, rest) ← digits? cs
  if 1 < ds.length ∧ ds.head? = some '0' then none else some (ds, rest)

def fractionPart? (cs : List Char) : Option (List Char × List Char) :=
  match cs with
  | '.' :: rest => (digits? rest).map fun (ds, r) => ('.' :: ds, r)
  | _ => some ([], cs)

def exponentPart? (cs : List Char) : Option (List Char × List Char) :=
  match cs with
  | e :: rest =>
    if e == 'e' || e == 'E' then
      let (sign, rest) := match rest with
        | '+' :: r => (['+'], r)
        | '-' :: r => (['-'], r)
        | r => ([], r)
      (digits? rest).map fun (ds, r) => (e :: sign ++ ds, r)
    else some ([], cs)
  | [] => some ([], cs)

def number? (cs : List Char) : Option (List Char × List Char) := do
  let (sign, rest) := match cs with
    | '-' :: r => (['-'], r)
    | r => ([], r)
  let (whole, rest) ← wholePart? rest
  let (fraction, rest) ← fractionPart? rest
  let (exponent, rest) ← exponentPart? rest
  some (sign ++ whole ++ fraction ++ exponent, rest)

def word? (word : String) (node : JsonNode) (cs : List Char) : Option (JsonNode × List Char) :=
  if word.toList.isPrefixOf cs then some (node, cs.drop word.length) else none

mutual

def value? : (fuel : Nat) → List Char → Option (JsonNode × List Char)
  | 0, _ => none
  | fuel + 1, cs =>
    match skipBlank cs with
    | 'n' :: rest => word? "null" null ('n' :: rest)
    | 't' :: rest => word? "true" (bool true) ('t' :: rest)
    | 'f' :: rest => word? "false" (bool false) ('f' :: rest)
    | '"' :: rest => (string? ('"' :: rest)).map fun (s, r) => (text s, r)
    | '[' :: rest =>
      match skipBlank rest with
      | ']' :: r => some (list [], r)
      | r => (items? fuel r).map fun (xs, r) => (list xs, r)
    | '\x7b' :: rest =>
      match skipBlank rest with
      | '\x7d' :: r => some (record [], r)
      | r => (fields? fuel r).map fun (xs, r) => (record xs, r)
    | rest => (number? rest).map fun (n, r) => (number n, r)

/-- The items of a non-empty list and its closing bracket. -/
def items? : (fuel : Nat) → List Char → Option (List JsonNode × List Char)
  | 0, _ => none
  | fuel + 1, cs => do
    let (x, rest) ← value? fuel cs
    match skipBlank rest with
    | ',' :: rest =>
      let (xs, rest) ← items? fuel rest
      some (x :: xs, rest)
    | ']' :: rest => some ([x], rest)
    | _ => none

/-- The fields of a non-empty record and its closing brace. -/
def fields? : (fuel : Nat) → List Char → Option (List (Option String × JsonNode) × List Char)
  | 0, _ => none
  | fuel + 1, cs => do
    let (name, rest) ← string? (skipBlank cs)
    match skipBlank rest with
    | ':' :: rest =>
      let (x, rest) ← value? fuel rest
      match skipBlank rest with
      | ',' :: rest =>
        let (xs, rest) ← fields? fuel rest
        some ((name, x) :: xs, rest)
      | '\x7d' :: rest => some ([(name, x)], rest)
      | _ => none
    | _ => none

end

def parse? (s : String) : Option JsonNode := do
  let cs := s.toList
  let (x, rest) ← value? (2 * cs.length + 2) cs
  if (skipBlank rest).isEmpty then some x else none

end JsonNode
end ClusterProbe
