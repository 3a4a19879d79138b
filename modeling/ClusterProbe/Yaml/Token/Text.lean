import ClusterProbe.Uuid
import ClusterProbe.Endpoint.Ipv6
import ClusterProbe.Yaml.Token

/-!
# The texts of scalars

Scalars in their five styles. Outside of blocks, white space with line ends in it is folded: one
line end becomes a space, and of several the first is dropped.
-/
namespace ClusterProbe.Yaml

/-- White space with line ends in it becomes a space, or all its line ends but the first. A
separator that comes first is kept. -/
def foldSpace (run : List Char) : List Char :=
  match run.filter isBreak with
  | [] => run
  | ['\n'] => [' ']
  | '\n' :: more => more
  | breaks => breaks

/-- The character that a hexadecimal number stands for. -/
def charOfHex? (digits : List Char) : Option Char :=
  if digits.all Ipv6.isHexDigit then
    let n := digits.foldl (fun n c => n * 16 + Uuid.hexValue c) 0
    if n < 0xD800 ∨ (0xDFFF < n ∧ n ≤ 0x10FFFF) then some (Char.ofNat n) else none
  else none

def shortEscape? (c : Char) : Option Char :=
  [('0', '\x00'), ('a', '\x07'), ('b', '\x08'), ('t', '\t'), ('\t', '\t'), ('n', '\n'),
    ('v', '\x0B'), ('f', '\x0C'), ('r', '\r'), ('e', '\x1B'), (' ', ' '), ('"', '"'), ('/', '/'),
    ('\\', '\\'), ('N', '\x85'), ('_', '\xA0'), ('L', '\u2028'), ('P', '\u2029')].lookup c

/-- Reads what follows a backslash: the character meant, and how many characters meant it. -/
def escape? : List Char → Option (Char × Nat)
  | [] => none
  | c :: cs =>
    let hex := fun width =>
      if cs.length < width then none
      else (charOfHex? (cs.take width)).map fun d => (d, width + 1)
    match c with
    | 'x' => hex 2
    | 'u' => hex 4
    | 'U' => hex 8
    | _ => (shortEscape? c).map fun d => (d, 1)

/-- The rest of a scalar in double quotes. A backslash at the end of a line takes the line end and
the white space that follows with it, but for further line ends. -/
def doubleQuoted? : (fuel : Nat) → Cursor → Option (List Char × Cursor)
  | 0, _ => none
  | fuel + 1, c =>
    if c.atDocumentMarker then none
    else
      let more := fun (cs : List Char) (c : Cursor) =>
        (doubleQuoted? fuel c).map fun (rest, c) => (cs ++ rest, c)
      match c.rest with
      | [] => none
      | '"' :: _ => some ([], c.next)
      | '\\' :: rest =>
        if (rest.head?.map isBreak).getD false then
          let (run, c) := (c.skip 2).span isSpace
          more (run.filter isBreak) c
        else
          match escape? rest with
          | none => none
          | some (d, n) => more [d] (c.skip (n + 1))
      | d :: _ =>
        if isSpace d then
          let (run, c) := c.span isSpace
          more (foldSpace run) c
        else more [d] c.next

/-- The rest of a scalar in single quotes; a quote in it is written twice. -/
def singleQuoted? : (fuel : Nat) → Cursor → Option (List Char × Cursor)
  | 0, _ => none
  | fuel + 1, c =>
    if c.atDocumentMarker then none
    else
      let more := fun (cs : List Char) (c : Cursor) =>
        (singleQuoted? fuel c).map fun (rest, c) => (cs ++ rest, c)
      match c.rest with
      | [] => none
      | '\'' :: '\'' :: _ => more ['\''] (c.skip 2)
      | '\'' :: _ => some ([], c.next)
      | d :: _ =>
        if isSpace d then
          let (run, c) := c.span isSpace
          more (foldSpace run) c
        else more [d] c.next

/-- A plain scalar ends at a colon before white space, and in a flow collection at the marks of
one. -/
def endsPlain (flow : Bool) (d : Char) (after : Option Char) : Bool :=
  isSpace d || (d == ':' && (after.map isSpace).getD true) ||
    (flow && ",[]\x7b\x7d".toList.contains d)

/-- The characters up to the next white space or the end of a plain scalar. In a flow collection a
colon cannot stand right before a mark. -/
def plainWord? (flow : Bool) : List Char → Option (List Char)
  | [] => some []
  | d :: ds =>
    if flow && d == ':' && (ds.head?.map fun a => ",?[]\x7b\x7d".toList.contains a).getD false then
      none
    else if endsPlain flow d ds.head? then some []
    else (plainWord? flow ds).map (d :: ·)

/-- The lines that white space holds after its first line end. -/
def linesAfterBreak (run : List Char) : List (List Char) :=
  match run.dropWhile (!isBreak ·) with
  | [] => []
  | _ :: rest => rest.splitOnP isBreak

/-- A plain scalar from here on, in words. Its lines are indented by `indent` at least, outside of
flow collections, and not with tabs. Also tells whether a line ended behind its last word. -/
def plain? (flow : Bool) (indent : Nat) :
    (fuel : Nat) → (space : List Char) → Cursor → Option (List Char × Bool × Cursor)
  | 0, _, _ => none
  | fuel + 1, space, c =>
    let brokenBefore := space.any isBreak
    if c.atDocumentMarker ∨ c.startsWith '#' then some ([], brokenBefore, c)
    else
      match plainWord? flow c.rest with
      | none => none
      | some [] => some ([], brokenBefore, c)
      | some word =>
        let text := foldSpace space ++ word
        let c := c.skip word.length
        let (run, after) := c.span isSpace
        if run.isEmpty then some (text, false, c)
        else if (linesAfterBreak run).any fun line => (line.take indent).contains '\t' then none
        else if !flow ∧ after.column < indent then some (text, run.any isBreak, after)
        else
          (plain? flow indent fuel run after).map fun (rest, broken, c) => (text ++ rest, broken, c)

/-- Whether the line ends at the end of a block are kept. -/
inductive Chomping where
  | strip | clip | keep
  deriving DecidableEq, Repr

def chomping? : Char → Option Chomping
  | '+' => some .keep
  | '-' => some .strip
  | _ => none

def indentDigit? (c : Char) : Option Nat :=
  if '1' ≤ c ∧ c ≤ '9' then some (c.toNat - '0'.toNat) else none

/-- The marks behind the sign of a block: how it ends and how far it is indented, in any order. -/
def blockMarks (c : Cursor) : Chomping × Option Nat × Cursor :=
  match c.head?.bind chomping?, c.head?.bind indentDigit? with
  | some chomping, _ =>
    let c := c.next
    match c.head?.bind indentDigit? with
    | some n => (chomping, some n, c.next)
    | none => (chomping, none, c)
  | none, some n =>
    let c := c.next
    match c.head?.bind chomping? with
    | some chomping => (chomping, some n, c.next)
    | none => (.clip, some n, c)
  | none, none => (.clip, none, c)

/-- Passes over the indentation of a line and the empty lines before it. Gives the line ends passed
and the deepest indentation seen. A tab cannot stand in the indentation. -/
def blockGap? (indent : Option Nat) :
    (fuel : Nat) → (deepest : Nat) → Cursor → Option (List Char × Nat × Cursor)
  | 0, _, _ => none
  | fuel + 1, deepest, c =>
    let spaces := (c.rest.takeWhile (· == ' ')).length
    let c := c.skip (match indent with
      | some n => min spaces (n - c.column)
      | none => spaces)
    let deepest := max deepest c.column
    let inIndentation := indent.all (c.column < ·)
    match c.rest with
    | [] => some ([], deepest, c)
    | d :: _ =>
      if inIndentation ∧ d = '\t' then none
      else if isBreak d then
        (blockGap? indent fuel deepest c.next).map fun (breaks, deepest, c) =>
          (d :: breaks, deepest, c)
      else some ([], deepest, c)

/-- What stands between two lines of a block. A folded block joins two lines by a space, unless one
of them starts with white space. -/
def blockJoint (folded : Bool) (break? : List Char) (breaks : List Char) (blank nextBlank : Bool) :
    List Char :=
  if folded ∧ break? = ['\n'] ∧ !blank ∧ !nextBlank then
    if breaks.isEmpty then [' '] else breaks
  else break? ++ breaks

/-- The lines of a block from here on: `break?` is the end of the line before, `breaks` those of the
empty lines since, `blank` says that the line before started with white space. -/
def blockLines? (folded : Bool) (chomping : Chomping) (indent : Nat) :
    (fuel : Nat) → (break? breaks : List Char) → (blank : Bool) → Cursor →
      Option (List Char × Cursor)
  | 0, _, _, _, _ => none
  | fuel + 1, break?, breaks, blank, c =>
    if c.column = indent ∧ !c.rest.isEmpty then
      let nextBlank := (c.head?.map isBlank).getD false
      let joint := blockJoint folded break? breaks blank nextBlank
      let (line, c) := c.span (!isBreak ·)
      let lineEnd := c.rest.take 1
      match blockGap? (some indent) (c.rest.length + 1) 0 c.next with
      | none => none
      | some (breaks, _, c) =>
        (blockLines? folded chomping indent fuel lineEnd breaks nextBlank c).map fun (rest, c) =>
          (joint ++ line ++ rest, c)
    else
      match chomping with
      | .strip => some ([], c)
      | .clip => some (break?, c)
      | .keep => some (break? ++ breaks, c)

/-- A literal or folded block behind its sign. `parent` is the column of the enclosing collection,
if there is one. Without a mark the first line that is not empty sets the indentation. -/
def block? (folded : Bool) (parent : Option Nat) (c : Cursor) : Option (List Char × Cursor) := do
  let (chomping, increment, c) := blockMarks c
  let c := c.skipWhile isBlank
  let c := if c.startsWith '#' then c.skipWhile (!isBreak ·) else c
  if !c.atLineEnd then none
  let c := c.next
  let fuel := c.rest.length + 1
  let indent := increment.map fun n => parent.getD 0 + n
  let (breaks, deepest, c) ← blockGap? indent fuel 0 c
  let least := max 1 (parent.elim 0 (· + 1))
  blockLines? folded chomping (indent.getD (max deepest least)) fuel [] breaks false c

end ClusterProbe.Yaml
