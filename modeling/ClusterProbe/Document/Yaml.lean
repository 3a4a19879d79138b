import ClusterProbe.Decimal.Shortest
import ClusterProbe.Document
import ClusterProbe.Yaml.Scalar

/-!
# Documents as YAML

Written in block style, with the items of a list at the column of its key. A text is written plain
where that is unambiguous, in single quotes where it is not, as a literal block when it has several
lines, and in double quotes when it holds characters that the other styles cannot show.
-/
namespace ClusterProbe.Document

/-- Exponents have no plus sign. -/
def yamlFloat : Decimal.FloatFormat := ⟨false⟩

def isLineBreak (c : Char) : Bool :=
  c == '\n' || c == '\r' || c == '\x85' || c == '\u2028' || c == '\u2029'

def isBlankOrBreak (c : Char) : Bool :=
  c == ' ' || c == '\t' || c == '\x00' || isLineBreak c

def isYamlPrintable (c : Char) : Bool :=
  let n := c.toNat
  n == 0x0A || (0x20 ≤ n && n ≤ 0x7E) || (0xA0 ≤ n && n != 0xFEFF && n != 0xFFFE && n != 0xFFFF)

/-- What a text holds that decides its style. -/
structure TextTraits where
  /-- A plain scalar would be read as something else. -/
  indicators : Bool
  lineBreaks : Bool
  special : Bool
  edgeBlank : Bool
  trailingSpace : Bool
  breakSpace : Bool
  spaceBreak : Bool

/-- Whether a character starts some other construct where it stands. -/
def isIndicatorAt (first : Bool) (before : Option Char) (c : Char) (after : Option Char) : Bool :=
  let blankAfter := (after.map isBlankOrBreak).getD true
  let blankBefore := (before.map isBlankOrBreak).getD true
  if first then
    "#,[]\x7b\x7d&*!|>'\"%@`".toList.contains c ||
      ((c == '?' || c == ':' || c == '-') && blankAfter)
  else (c == ':' && blankAfter) || (c == '#' && blankBefore)

def anyIndicator : (first : Bool) → (before : Option Char) → List Char → Bool
  | _, _, [] => false
  | first, before, c :: cs =>
    isIndicatorAt first before c cs.head? || anyIndicator false (some c) cs

/-- Whether two neighbouring characters satisfy two conditions. -/
def anyPair (p q : Char → Bool) (cs : List Char) : Bool :=
  (cs.zip cs.tail).any fun (a, b) => p a && q b

def TextTraits.of (cs : List Char) : TextTraits :=
  let space := fun c => c == ' '
  { indicators := "---".toList.isPrefixOf cs || "...".toList.isPrefixOf cs ||
      anyIndicator true none cs
    lineBreaks := cs.any isLineBreak
    special := cs.any (!isYamlPrintable ·)
    edgeBlank := ([cs.head?, cs.getLast?].filterMap id).any fun c => space c || isLineBreak c
    trailingSpace := (cs.getLast?.map space).getD false
    breakSpace := anyPair isLineBreak space cs
    spaceBreak := anyPair space isLineBreak cs }

inductive TextStyle where
  | plain | singleQuoted | doubleQuoted | literal
  deriving DecidableEq, Repr

/-- The style of a text: a text with newlines asks for a literal block, an ambiguous one for single
quotes, any other for none; each gives way when the text does not allow it. -/
def textStyle (s : String) : TextStyle :=
  let cs := s.toList
  let t := TextTraits.of cs
  let quotable := !(t.breakSpace || t.spaceBreak || t.special)
  let quoted := if cs.isEmpty || quotable then TextStyle.singleQuoted else .doubleQuoted
  if cs.contains '\n' then
    if t.trailingSpace || t.spaceBreak || t.special then .doubleQuoted else .literal
  else if Yaml.isAmbiguous s then quoted
  else if t.edgeBlank || t.lineBreaks || t.indicators || !quotable then quoted
  else .plain

def spaces (n : Nat) : List Char :=
  List.replicate n ' '

private def upperHex (width n : Nat) : List Char :=
  ((Nat.toDigits 16 n).map Char.toUpper).leftpad width '0'

def yamlEscape (c : Char) : List Char :=
  let n := c.toNat
  let short := [(0x00, '0'), (0x07, 'a'), (0x08, 'b'), (0x09, 't'), (0x0A, 'n'), (0x0B, 'v'),
    (0x0C, 'f'), (0x0D, 'r'), (0x1B, 'e'), (0x22, '"'), (0x5C, '\\'), (0x85, 'N'), (0xA0, '_'),
    (0x2028, 'L'), (0x2029, 'P')]
  match short.lookup n with
  | some e => ['\\', e]
  | none =>
    if n ≤ 0xFF then '\\' :: 'x' :: upperHex 2 n
    else if n ≤ 0xFFFF then '\\' :: 'u' :: upperHex 4 n
    else '\\' :: 'U' :: upperHex 8 n

def doubleQuotedText (cs : List Char) : List Char :=
  '"' :: cs.flatMap (fun c =>
    if !isYamlPrintable c || isLineBreak c || c == '"' || c == '\\' then yamlEscape c else [c]) ++
    ['"']

/-- Text in which a line that follows a break is indented; `broken` says that a break came last. -/
def indentBroken (indent : Nat) (write : Char → List Char) : (broken : Bool) → List Char → List Char
  | _, [] => []
  | broken, c :: cs =>
    if isLineBreak c then c :: indentBroken indent write true cs
    else (if broken then spaces indent else []) ++ write c ++ indentBroken indent write false cs

def singleQuotedText (indent : Nat) (cs : List Char) : List Char :=
  let close := if (cs.getLast?.map isLineBreak).getD false then spaces indent else []
  let doubled := fun c => if c == '\'' then [c, c] else [c]
  '\'' :: indentBroken indent doubled false cs ++ close ++ ['\'']

/-- How the line breaks at the end of a literal block count. -/
def chompMark (cs : List Char) : List Char :=
  match cs.reverse with
  | [] => ['-']
  | c :: before =>
    if !isLineBreak c then ['-']
    else match before with
      | [] => ['+']
      | b :: _ => if isLineBreak b then ['+'] else []

def literalText (indent : Nat) (cs : List Char) : List Char :=
  let hint := match cs with
    | c :: _ => if c == ' ' || isLineBreak c then ['2'] else []
    | [] => []
  let close := if (cs.getLast?.map isLineBreak).getD true then [] else ['\n']
  '|' :: hint ++ chompMark cs ++ '\n' :: indentBroken indent (fun c => [c]) true cs ++ close

/-- A text as a scalar, up to the end of its last line. -/
def yamlText (indent : Nat) (s : String) : List Char :=
  let cs := s.toList
  match textStyle s with
  | .plain => cs ++ ['\n']
  | .singleQuoted => singleQuotedText indent cs ++ ['\n']
  | .doubleQuoted => doubleQuotedText cs ++ ['\n']
  | .literal => literalText indent cs

mutual

/-- What follows a key at column `column`, up to the end of its last line. -/
def yamlField (column : Nat) : Document → List Char
  | null => " null\n".toList
  | bool b => (if b then " true\n" else " false\n").toList
  | int n => (s!" {n}\n").toList
  | float x => ' ' :: (Decimal.shortestText yamlFloat x).toList ++ ['\n']
  | text s => ' ' :: yamlText (column + 2) s
  | list [] => " []\n".toList
  | list items => '\n' :: yamlItems column items
  | record [] => [' ', '\x7b', '\x7d', '\n']
  | record fields => '\n' :: spaces (column + 2) ++ yamlFields (column + 2) fields

def yamlItems (column : Nat) : List Document → List Char
  | [] => []
  | d :: ds => spaces column ++ '-' :: yamlItem column d ++ yamlItems column ds

def yamlItem (column : Nat) : Document → List Char
  | record (f :: fs) => ' ' :: yamlFields (column + 2) (f :: fs)
  | list (d :: ds) => '\n' :: yamlItems (column + 2) (d :: ds)
  | d => yamlField column d

/-- The fields of a record; the first one stands where the text has got to. -/
def yamlFields (column : Nat) : List (String × Document) → List Char
  | [] => []
  | [(name, d)] => name.toList ++ ':' :: yamlField column d
  | (name, d) :: fs =>
    name.toList ++ ':' :: yamlField column d ++ spaces column ++ yamlFields column fs

end

def yaml : Document → String
  | record fields => String.ofList (yamlFields 0 fields)
  | list items => String.ofList (yamlItems 0 items)
  | d => String.ofList ((yamlField 0 d).drop 1)

end ClusterProbe.Document
