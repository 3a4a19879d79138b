import ClusterProbe.Decimal.Shortest
import ClusterProbe.Document

/-!
# Documents as JSON

Written compactly on one line, or with two spaces of indentation per level. Only what JSON demands
is escaped; an empty list is `[]` in either form.
-/
namespace ClusterProbe.Document

/-- Exponents have a sign. -/
def jsonFloat : Decimal.FloatFormat := ⟨true⟩

private def hexDigit (n : Nat) : Char :=
  (Nat.toDigits 16 n).getLastD '0'

def jsonChar (c : Char) : List Char :=
  match c with
  | '"' => ['\\', '"']
  | '\\' => ['\\', '\\']
  | '\x08' => ['\\', 'b']
  | '\x09' => ['\\', 't']
  | '\x0a' => ['\\', 'n']
  | '\x0c' => ['\\', 'f']
  | '\x0d' => ['\\', 'r']
  | _ =>
    if c.toNat < 0x20 then
      ['\\', 'u', '0', '0', hexDigit (c.toNat / 16), hexDigit (c.toNat % 16)]
    else [c]

def jsonText (s : String) : String :=
  String.ofList ('"' :: s.toList.flatMap jsonChar ++ ['"'])

/-- Entries between brackets: on one line, or each on a line of its own at `depth`. -/
def jsonEntries (pretty : Bool) (depth : Nat) (opening closing : String) (entries : List String) :
    String :=
  if entries.isEmpty then opening ++ closing
  else if pretty then
    let indent := fun n => String.ofList (List.replicate (2 * n) ' ')
    opening ++ "\n" ++ String.intercalate ",\n" (entries.map (indent (depth + 1) ++ ·)) ++ "\n" ++
      indent depth ++ closing
  else opening ++ String.intercalate "," entries ++ closing

mutual

def json (pretty : Bool) (depth : Nat) : Document → String
  | null => "null"
  | bool b => if b then "true" else "false"
  | int n => toString n
  | float x => Decimal.shortestText jsonFloat x
  | text s => jsonText s
  | list items => jsonEntries pretty depth "[" "]" (jsonItems pretty (depth + 1) items)
  | record fields =>
    jsonEntries pretty depth "\x7b" "\x7d" (jsonFields pretty (depth + 1) fields)

def jsonItems (pretty : Bool) (depth : Nat) : List Document → List String
  | [] => []
  | d :: ds => json pretty depth d :: jsonItems pretty depth ds

def jsonFields (pretty : Bool) (depth : Nat) : List (String × Document) → List String
  | [] => []
  | (name, d) :: fs =>
    (jsonText name ++ (if pretty then ": " else ":") ++ json pretty depth d) ::
      jsonFields pretty depth fs

end

def compactJson (d : Document) : String :=
  json false 0 d

def prettyJson (d : Document) : String :=
  json true 0 d

end ClusterProbe.Document
