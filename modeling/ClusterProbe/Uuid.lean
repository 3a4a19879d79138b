import ClusterProbe.Bytes
import ClusterProbe.Endpoint.Ipv6

/-!
# UUIDs

A 128-bit identifier. It is read from 32 hexadecimal digits, or from the hyphenated form
8-4-4-4-12, which may stand in braces or behind `urn:uuid:`; letters count in either case. It is
written hyphenated in lower case.
-/
namespace ClusterProbe

structure Uuid where
  bits : BitVec 128
  deriving DecidableEq, Repr

namespace Uuid

def hexValue (c : Char) : Nat :=
  if c ≤ '9' then c.toNat - '0'.toNat
  else if c ≤ 'F' then c.toNat - 'A'.toNat + 10
  else c.toNat - 'a'.toNat + 10

def ofDigits? (cs : List Char) : Option Uuid :=
  if cs.length = 32 ∧ cs.all Ipv6.isHexDigit then
    some ⟨BitVec.ofNat 128 (cs.foldl (fun n c => n * 16 + hexValue c) 0)⟩
  else none

/-- The hyphens of a text stand where the five groups meet. -/
def ofHyphenated? (cs : List Char) : Option Uuid :=
  match cs.splitOn '-' with
  | [a, b, c, d, e] =>
    if a.length = 8 ∧ b.length = 4 ∧ c.length = 4 ∧ d.length = 4 ∧ e.length = 12 then
      ofDigits? (a ++ b ++ c ++ d ++ e)
    else none
  | _ => none

/-- The hyphenated form inside its wrapping, if there is one. -/
def unwrap (cs : List Char) : List Char :=
  if cs.head? = some '\x7b' ∧ cs.getLast? = some '\x7d' then cs.tail.dropLast
  else if (cs.take 9).map Char.toLower = "urn:uuid:".toList then cs.drop 9
  else cs

def parse? (cs : List Char) : Option Uuid :=
  if cs.length = 32 then ofDigits? cs else ofHyphenated? (unwrap cs)

def digits (u : Uuid) : List Char :=
  (Nat.toDigits 16 u.bits.toNat).leftpad 32 '0'

def plainText (u : Uuid) : String :=
  String.ofList u.digits

def text (u : Uuid) : String :=
  let cs := u.digits
  String.ofList <| cs.take 8 ++ '-' :: (cs.drop 8).take 4 ++ '-' :: (cs.drop 12).take 4 ++
    '-' :: (cs.drop 16).take 4 ++ '-' :: cs.drop 20

end Uuid
end ClusterProbe
