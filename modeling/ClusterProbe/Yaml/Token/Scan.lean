import ClusterProbe.Yaml.Token.Text

/-!
# Finding the tokens

The text is cut into tokens from left to right. Indentation opens and closes block collections, so
the columns of those that are open are kept. A scalar or a collection may turn out to be a key when
a colon follows on its line; until then its place among the tokens is kept, one for each level of
flow collections. A text that cannot be cut has no tokens at all.
-/
namespace ClusterProbe.Yaml

/-- What may turn out to be a key. -/
structure KeyCandidate where
  /-- How many tokens stand before it. -/
  place : Nat
  index : Nat
  line : Nat
  column : Nat
  /-- It stands where only a key can stand. -/
  required : Bool
  deriving DecidableEq, Repr

structure Scanner where
  cursor : Cursor
  tokens : Array Token := #[]
  /-- The columns of the open block collections, innermost first. -/
  columns : List Nat := []
  /-- The candidate of the innermost flow level. -/
  candidate : Option KeyCandidate := none
  /-- Those of the levels around it, innermost first. -/
  outer : List (Option KeyCandidate) := []
  keyAllowed : Bool := true

namespace Scanner

def inFlow (s : Scanner) : Bool :=
  !s.outer.isEmpty

def emit (t : Token) (s : Scanner) : Scanner :=
  { s with tokens := s.tokens.push t }

/-- Emits a token that is `n` characters long. -/
def emitMark (t : Token) (n : Nat) (s : Scanner) : Scanner :=
  { s.emit t with cursor := s.cursor.skip n }

def allowKey (allowed : Bool) (s : Scanner) : Scanner :=
  { s with keyAllowed := allowed }

/-- Opens a block collection at a column that is deeper than the open ones; its token goes to the
given place. -/
def openBlock (column place : Nat) (t : Token) (s : Scanner) : Scanner :=
  if s.inFlow ∨ s.columns.head?.any (column ≤ ·) then s
  else { s with columns := column :: s.columns, tokens := s.tokens.insertIdxIfInBounds place t }

/-- Closes the block collections that are deeper than a column, or all of them. -/
def closeBlocks (column : Option Nat) (s : Scanner) : Scanner :=
  if s.inFlow then s
  else
    let deeper := s.columns.takeWhile fun c => column.all (· < c)
    { s with
      columns := s.columns.drop deeper.length
      tokens := s.tokens ++ (List.replicate deeper.length Token.blockEnd).toArray }

/-- A candidate is good for its own line, and for 1024 characters. -/
def isStale (s : Scanner) (k : KeyCandidate) : Bool :=
  k.line < s.cursor.line || k.index + 1024 < s.cursor.index

/-- Gives up the candidate of the innermost level. -/
def dropCandidate (s : Scanner) : Option Scanner :=
  if s.candidate.any (·.required) then none else some { s with candidate := none }

/-- Gives up the candidates that are too far back. -/
def dropStale (s : Scanner) : Option Scanner := do
  let fresh := fun (k : Option KeyCandidate) =>
    match k with
    | some k => if s.isStale k then (if k.required then none else some none) else some (some k)
    | none => some none
  return { s with candidate := ← fresh s.candidate, outer := ← s.outer.mapM fresh }

/-- Remembers that a key could start here. -/
def saveCandidate (s : Scanner) : Option Scanner :=
  if s.keyAllowed then do
    let s ← s.dropCandidate
    let c := s.cursor
    let required := !s.inFlow && s.columns.head? == some c.column
    return { s with
      candidate := some ⟨s.tokens.size, c.index, c.line, c.column, required⟩ }
  else some s

/-- White space, comments and line ends before a token. Tabs cannot stand where a key could start.
In a block a new line lets a key start. -/
def skipGap : (fuel : Nat) → Scanner → Scanner
  | 0, s => s
  | fuel + 1, s =>
    let c := s.cursor
    let c := if c.column = 0 ∧ c.startsWith '\uFEFF' then c.next else c
    let tabs := s.inFlow || !s.keyAllowed
    let c := c.skipWhile fun d => d == ' ' || (tabs && d == '\t')
    let c := if c.startsWith '#' then c.skipWhile (!isBreak ·) else c
    if (c.head?.map isBreak).getD false then
      skipGap fuel { s with cursor := c.next, keyAllowed := !s.inFlow || s.keyAllowed }
    else { s with cursor := c }

def number? (c : Cursor) : Option (Nat × Cursor) :=
  let (digits, c) := c.span Decimal.isDigit
  if digits.isEmpty ∨ 9 < digits.length then none else some (Decimal.valueOf digits, c)

/-- The handle of a tag: `!`, `!!` or a name between exclamation marks. Elsewhere than in a
directive a name may lack the second mark, and is no handle then. -/
def tagHandle? (directive : Bool) (c : Cursor) : Option (List Char × Cursor) :=
  if !c.startsWith '!' then none
  else
    let (name, c) := c.next.span isNameChar
    if c.startsWith '!' then some ('!' :: name ++ ['!'], c.next)
    else if directive ∧ !name.isEmpty then none
    else some ('!' :: name, c)

def isTagChar (verbatim : Bool) (c : Char) : Bool :=
  isNameChar c || ";/?:@&=+$.!~*'()%".toList.contains c || (verbatim && ",[]".toList.contains c)

/-- The text of a tag; bytes may be written in hexadecimal behind a percent sign. -/
def unescapeTag? : List Char → Option (List Char)
  | '%' :: a :: b :: cs =>
    if Ipv6.isHexDigit a ∧ Ipv6.isHexDigit b then
      (unescapeTag? cs).map (Char.ofNat (Uuid.hexValue a * 16 + Uuid.hexValue b) :: ·)
    else none
  | '%' :: _ => none
  | c :: cs => (unescapeTag? cs).map (c :: ·)
  | [] => some []

def tagText? (verbatim : Bool) (c : Cursor) : Option (List Char × Cursor) :=
  let (text, c) := c.span (isTagChar verbatim)
  (unescapeTag? text).map fun text => (text, c)

/-- A tag: verbatim between angle brackets, or behind a handle. -/
def scanTag (s : Scanner) : Option Scanner := do
  let c := s.cursor
  let (token, c) ←
    if c.rest[1]? = some '<' then do
      let (text, c) ← tagText? true (c.skip 2)
      if text.isEmpty ∨ !c.startsWith '>' then none
      else some (Token.tag "" (String.ofList text), c.next)
    else do
      let (handle, c) ← tagHandle? false c
      let (suffix, c) ← tagText? false c
      if 1 < handle.length ∧ handle.getLast? = some '!' then
        if suffix.isEmpty then none
        else some (Token.tag (String.ofList handle) (String.ofList suffix), c)
      else
        let text := handle.drop 1 ++ suffix
        if text.isEmpty then some (Token.tag "" "!", c)
        else some (Token.tag "!" (String.ofList text), c)
  if c.spaceAt 0 ∨ (s.inFlow ∧ c.startsWith ',') then
    some { s.emit token with cursor := c }
  else none

def scanName (token : String → Token) (s : Scanner) : Option Scanner :=
  let (name, c) := s.cursor.next.span isNameChar
  if name.isEmpty then none
  else if c.spaceAt 0 ∨ (c.head?.map fun d => "?:,]\x7d%@`".toList.contains d).getD false then
    some { s.emit (token (String.ofList name)) with cursor := c }
  else none

/-- A line that starts with a percent sign: a version or the meaning of a tag handle. -/
def scanDirective (s : Scanner) : Option Scanner := do
  let (name, c) := s.cursor.next.span isNameChar
  if !c.spaceAt 0 then none
  let (token, c) ← match String.ofList name with
    | "YAML" => do
      let (major, c) ← number? (c.skipWhile isBlank)
      if !c.startsWith '.' then none
      let (minor, c) ← number? c.next
      some (Token.version major minor, c)
    | "TAG" => do
      let (handle, c) ← tagHandle? true (c.skipWhile isBlank)
      if !(c.head?.map isBlank).getD false then none
      let (text, c) ← tagText? true (c.skipWhile isBlank)
      if text.isEmpty ∨ !c.spaceAt 0 then none
      else some (Token.tagHandle (String.ofList handle) (String.ofList text), c)
    | _ => none
  let c := c.skipWhile isBlank
  let c := if c.startsWith '#' then c.skipWhile (!isBreak ·) else c
  if c.atLineEnd then some { s.emit token with cursor := c.next } else none

def scanBlockEntry (s : Scanner) : Option Scanner := do
  let s ← if s.inFlow then some s
    else if s.keyAllowed then
      some (s.openBlock s.cursor.column s.tokens.size .blockSequenceStart)
    else none
  return ((← s.dropCandidate).allowKey true).emitMark .blockEntry 1

def scanKey (s : Scanner) : Option Scanner := do
  let s ← if s.inFlow then some s
    else if s.keyAllowed then
      some (s.openBlock s.cursor.column s.tokens.size .blockMappingStart)
    else none
  return ((← s.dropCandidate).allowKey !s.inFlow).emitMark .key 1

/-- The `:` before a value. What stood before it on the line becomes the key. -/
def scanValue (s : Scanner) : Option Scanner :=
  match s.candidate with
  | some k =>
    let s := { s with tokens := s.tokens.insertIdxIfInBounds k.place .key, candidate := none }
    some (((s.openBlock k.column k.place .blockMappingStart).allowKey false).emitMark .value 1)
  | none =>
    if s.inFlow then some ((s.allowKey false).emitMark .value 1)
    else if s.keyAllowed then
      some (((s.openBlock s.cursor.column s.tokens.size .blockMappingStart).allowKey true).emitMark
        .value 1)
    else none

def scanFlowStart (t : Token) (s : Scanner) : Option Scanner := do
  let s ← s.saveCandidate
  return ({ s with candidate := none, outer := s.candidate :: s.outer }.allowKey true).emitMark t 1

def scanFlowEnd (t : Token) (s : Scanner) : Option Scanner := do
  let s ← s.dropCandidate
  let s := match s.outer with
    | [] => s
    | k :: outer => { s with candidate := k, outer }
  return (s.allowKey false).emitMark t 1

def scanDocumentMark (t : Token) (s : Scanner) : Option Scanner := do
  return ((← (s.closeBlocks none).dropCandidate).allowKey false).emitMark t 3

def scanQuoted (style : ScalarStyle) (s : Scanner) : Option Scanner := do
  let s ← s.saveCandidate
  let read := if style = .singleQuoted then singleQuoted? else doubleQuoted?
  let (text, c) ← read (s.cursor.rest.length + 1) s.cursor.next
  return { (s.allowKey false).emit (.scalar (String.ofList text) style) with cursor := c }

def scanBlock (style : ScalarStyle) (s : Scanner) : Option Scanner := do
  let s ← s.dropCandidate
  let (text, c) ← block? (style = .folded) s.columns.head? s.cursor.next
  return { (s.allowKey true).emit (.scalar (String.ofList text) style) with cursor := c }

def scanPlain (s : Scanner) : Option Scanner := do
  let s ← s.saveCandidate
  let indent := s.columns.head?.elim 0 (· + 1)
  let (text, broken, c) ← plain? s.inFlow indent (s.cursor.rest.length + 1) [] s.cursor
  return { (s.allowKey broken).emit (.scalar (String.ofList text) .plain) with cursor := c }

/-- A plain scalar cannot start with a mark, but for `-`, and in blocks `?` and `:`, before what is
no white space. -/
def startsPlain (s : Scanner) (d : Char) : Bool :=
  !(isSpace d || "-?:,[]\x7b\x7d#&*!|>'\"%@`".toList.contains d) ||
    (d == '-' && !(s.cursor.rest[1]?.map isBlank).getD false) ||
    (!s.inFlow && (d == '?' || d == ':') && !s.cursor.spaceAt 1)

def scanToken (d : Char) (s : Scanner) : Option Scanner :=
  let c := s.cursor
  let marks := s.inFlow || c.spaceAt 1
  if c.column = 0 ∧ d = '%' then do
    ((← (s.closeBlocks none).dropCandidate).allowKey false).scanDirective
  else if c.isMarker ['-', '-', '-'] then s.scanDocumentMark .documentStart
  else if c.isMarker ['.', '.', '.'] then s.scanDocumentMark .documentEnd
  else if d = '[' then s.scanFlowStart .flowSequenceStart
  else if d = '\x7b' then s.scanFlowStart .flowMappingStart
  else if d = ']' then s.scanFlowEnd .flowSequenceEnd
  else if d = '\x7d' then s.scanFlowEnd .flowMappingEnd
  else if d = ',' then do return ((← s.dropCandidate).allowKey true).emitMark .flowEntry 1
  else if d = '-' ∧ c.spaceAt 1 then s.scanBlockEntry
  else if d = '?' ∧ marks then s.scanKey
  else if d = ':' ∧ marks then s.scanValue
  else if d = '*' then do ((← s.saveCandidate).allowKey false).scanName .alias
  else if d = '&' then do ((← s.saveCandidate).allowKey false).scanName .anchor
  else if d = '!' then do ((← s.saveCandidate).allowKey false).scanTag
  else if d = '|' ∧ !s.inFlow then s.scanBlock .literal
  else if d = '>' ∧ !s.inFlow then s.scanBlock .folded
  else if d = '\'' then s.scanQuoted .singleQuoted
  else if d = '"' then s.scanQuoted .doubleQuoted
  else if s.startsPlain d then s.scanPlain
  else none

/-- Takes tokens up to the end of the text, where all blocks are closed. -/
def run : (fuel : Nat) → Scanner → Option (Array Token)
  | 0, _ => none
  | fuel + 1, s => do
    let s ← (s.skipGap (s.cursor.rest.length + 1)).dropStale
    match s.cursor.head? with
    | none => return (← (s.closeBlocks none).dropCandidate).tokens
    | some d => run fuel (← (s.closeBlocks (some s.cursor.column)).scanToken d)

end Scanner

def Token.scan? (text : String) : Option (List Token) :=
  let cs := text.toList
  if cs.all isAllowed then
    ((Scanner.mk { rest := normalizeBreaks cs } #[] [] none [] true).run (cs.length + 1)).map
      Array.toList
  else none

end ClusterProbe.Yaml
