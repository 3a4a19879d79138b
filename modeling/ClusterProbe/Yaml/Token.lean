/-!
# Tokens of a YAML text

The pieces that a YAML text is made of, and the place in the text that a reader has come to. Line
ends are single characters: a newline, or one of the two Unicode separators.
-/
namespace ClusterProbe.Yaml

inductive ScalarStyle where
  | plain | singleQuoted | doubleQuoted | literal | folded
  deriving DecidableEq, Repr, Inhabited

inductive Token where
  | version (major minor : Nat)
  | tagHandle (handle replacement : String)
  | documentStart
  | documentEnd
  | blockSequenceStart
  | blockMappingStart
  | blockEnd
  | flowSequenceStart
  | flowSequenceEnd
  | flowMappingStart
  | flowMappingEnd
  | blockEntry
  | flowEntry
  | key
  | value
  | alias (name : String)
  | anchor (name : String)
  | tag (handle suffix : String)
  | scalar (text : String) (style : ScalarStyle)
  deriving DecidableEq, Repr, Inhabited

def isBreak (c : Char) : Bool :=
  c == '\n' || c == '\u2028' || c == '\u2029'

def isBlank (c : Char) : Bool :=
  c == ' ' || c == '\t'

def isSpace (c : Char) : Bool :=
  isBlank c || isBreak c

/-- Characters of names: anchors, directives and tag handles. -/
def isNameChar (c : Char) : Bool :=
  c.isAlphanum || c == '_' || c == '-'

/-- Control characters other than tab and the line ends cannot occur, nor can U+FFFE and U+FFFF. -/
def isAllowed (c : Char) : Bool :=
  let n := c.toNat
  n == 0x09 || n == 0x0A || n == 0x0D || (0x20 ≤ n && n ≤ 0x7E) || n == 0x85 ||
    (0xA0 ≤ n && n ≤ 0xFFFD) || 0x10000 ≤ n

/-- Line ends in one spelling. -/
def normalizeBreaks : List Char → List Char
  | [] => []
  | '\r' :: '\n' :: cs => '\n' :: normalizeBreaks cs
  | c :: cs => (if c = '\r' ∨ c = '\x85' then '\n' else c) :: normalizeBreaks cs

/-- The rest of a text, and where it starts. -/
structure Cursor where
  rest : List Char
  index : Nat := 0
  line : Nat := 0
  column : Nat := 0
  deriving DecidableEq, Repr, Inhabited

namespace Cursor

def next (c : Cursor) : Cursor :=
  match c.rest with
  | [] => c
  | ch :: rest =>
    if isBreak ch then ⟨rest, c.index + 1, c.line + 1, 0⟩
    else ⟨rest, c.index + 1, c.line, c.column + 1⟩

def skip (n : Nat) (c : Cursor) : Cursor :=
  n.repeat next c

/-- The longest run of characters with a property, and what follows it. -/
def span (p : Char → Bool) (c : Cursor) : List Char × Cursor :=
  let run := c.rest.takeWhile p
  (run, c.skip run.length)

def skipWhile (p : Char → Bool) (c : Cursor) : Cursor :=
  (c.span p).2

def head? (c : Cursor) : Option Char :=
  c.rest.head?

def startsWith (c : Cursor) (mark : Char) : Bool :=
  c.head? == some mark

/-- The character `n` places on is white space, or the text ends before. -/
def spaceAt (n : Nat) (c : Cursor) : Bool :=
  (c.rest[n]?.map isSpace).getD true

def atLineEnd (c : Cursor) : Bool :=
  (c.head?.map isBreak).getD true

def isMarker (mark : List Char) (c : Cursor) : Bool :=
  c.column == 0 && mark.isPrefixOf c.rest && c.spaceAt 3

def atDocumentMarker (c : Cursor) : Bool :=
  c.isMarker ['-', '-', '-'] || c.isMarker ['.', '.', '.']

end Cursor
end ClusterProbe.Yaml
