import ClusterProbe.Yaml.Token.Scan

/-!
# YAML documents

The nodes of a document and how they are put together from tokens. A text holds one document or
none. An alias is replaced by the node that it stands for.
-/
namespace ClusterProbe.Yaml

structure Scalar where
  text : String
  style : ScalarStyle
  tag : Option String := none
  deriving DecidableEq, Repr, Inhabited

inductive Node where
  | scalar (s : Scalar)
  | sequence (items : List Node)
  | mapping (entries : List (Node × Node))
  /-- An alias to a collection that it is part of. -/
  | cyclic
  deriving Repr, Inhabited

namespace Node

def empty (tag : Option String := none) : Node :=
  .scalar { text := "", style := .plain, tag }

end Node

/-- What is left to put together, and what anchors and tag handles stand for. -/
structure Composer where
  tokens : List Token
  anchors : Array (String × Node) := #[]
  handles : List (String × String) := []

namespace Composer

abbrev Compose := StateT Composer Option

def peek : Compose (Option Token) :=
  return (← get).tokens.head?

def advance : Compose Unit :=
  modify fun s => { s with tokens := s.tokens.tail }

def take (t : Token) : Compose Bool := do
  if (← peek) = some t then
    advance
    return true
  else return false

def expect (t : Token) : Compose Unit := do
  if !(← take t) then failure

/-- Whether one of some tokens comes next. -/
def nextIn (ts : List Token) : Compose Bool :=
  return (← peek).any ts.contains

def standardHandles : List (String × String) :=
  [("!", "!"), ("!!", "tag:yaml.org,2002:")]

def resolve (handle suffix : String) : Compose String := do
  if handle.isEmpty then return suffix
  match ((← get).handles ++ standardHandles).lookup handle with
  | some replacement => return replacement ++ suffix
  | none => failure

structure Properties where
  anchor : Option String := none
  tag : Option String := none

/-- An anchor and a tag in any order, at most one of each. -/
def properties : (fuel : Nat) → Properties → Compose Properties
  | 0, p => return p
  | fuel + 1, p => do
    match ← peek, p.anchor, p.tag with
    | some (.anchor name), none, _ => do
      advance
      properties fuel { p with anchor := some name }
    | some (.tag handle suffix), _, none => do
      advance
      properties fuel { p with tag := some (← resolve handle suffix) }
    | _, _, _ => return p

/-- Lets an anchor stand for a node. -/
def anchored (anchor : Option String) (node : Compose Node) : Compose Node := do
  match anchor with
  | none => node
  | some name =>
    let place := (← get).anchors.size
    modify fun s => { s with anchors := s.anchors.push (name, .cyclic) }
    let n ← node
    modify fun s => { s with anchors := s.anchors.setIfInBounds place (name, n) }
    return n

def lookUp (name : String) : Compose Node := do
  match (← get).anchors.toList.reverse.lookup name with
  | some n => return n
  | none => failure

mutual

/-- A node. Block collections cannot stand in flow collections; `indentless` lets a sequence stand
without indentation, as the value of a key. -/
def node (block indentless : Bool) : (fuel : Nat) → Compose Node
  | 0 => failure
  | fuel + 1 => do
    if let some (.alias name) := ← peek then
      advance
      return ← lookUp name
    let p ← properties 2 {}
    anchored p.anchor do
      match ← peek with
      | some (.scalar text style) =>
        advance
        return .scalar { text, style, tag := p.tag }
      | some .flowSequenceStart =>
        advance
        return .sequence (← flowItems true fuel)
      | some .flowMappingStart =>
        advance
        return .mapping (← flowEntries true fuel)
      | some .blockEntry =>
        if indentless then return .sequence (← indentlessItems fuel)
        else if p.anchor.isSome ∨ p.tag.isSome then return .empty p.tag
        else failure
      | some .blockSequenceStart =>
        if block then
          advance
          return .sequence (← blockItems fuel)
        else if p.anchor.isSome ∨ p.tag.isSome then return .empty p.tag
        else failure
      | some .blockMappingStart =>
        if block then
          advance
          return .mapping (← blockEntries fuel)
        else if p.anchor.isSome ∨ p.tag.isSome then return .empty p.tag
        else failure
      | _ => if p.anchor.isSome ∨ p.tag.isSome then return .empty p.tag else failure

def blockItems : (fuel : Nat) → Compose (List Node)
  | 0 => failure
  | fuel + 1 => do
    if ← take .blockEnd then return []
    expect .blockEntry
    let item ← if ← nextIn [.blockEntry, .blockEnd] then pure (.empty) else node true false fuel
    return item :: (← blockItems fuel)

/-- The items of a sequence at the column of its key. -/
def indentlessItems : (fuel : Nat) → Compose (List Node)
  | 0 => failure
  | fuel + 1 => do
    if !(← take .blockEntry) then return []
    let item ← if ← nextIn [.blockEntry, .key, .value, .blockEnd] then pure (.empty)
      else node true false fuel
    return item :: (← indentlessItems fuel)

/-- A part of an entry in a block mapping. -/
def blockPart : (fuel : Nat) → Compose Node
  | 0 => failure
  | fuel + 1 => do
    if ← nextIn [.key, .value, .blockEnd] then return .empty else node true true fuel

def blockEntries : (fuel : Nat) → Compose (List (Node × Node))
  | 0 => failure
  | fuel + 1 => do
    if ← take .blockEnd then return []
    expect .key
    let key ← blockPart fuel
    let value ← if ← take .value then blockPart fuel else pure (.empty)
    return (key, value) :: (← blockEntries fuel)

/-- The items of a flow sequence. An item with a colon is a mapping of one entry. -/
def flowItems (first : Bool) : (fuel : Nat) → Compose (List Node)
  | 0 => failure
  | fuel + 1 => do
    if ← take .flowSequenceEnd then return []
    if !first then
      expect .flowEntry
      if ← take .flowSequenceEnd then return []
    let item ←
      if ← take .key then do
        let key ←
          if ← nextIn [.value, .flowEntry, .flowSequenceEnd] then do
            advance
            pure (.empty)
          else node false false fuel
        let value ←
          if ← take .value then do
            if ← nextIn [.flowEntry, .flowSequenceEnd] then pure (.empty)
            else node false false fuel
          else pure (.empty)
        pure (.mapping [(key, value)])
      else node false false fuel
    return item :: (← flowItems false fuel)

/-- The entries of a flow mapping. A key may stand alone. -/
def flowEntries (first : Bool) : (fuel : Nat) → Compose (List (Node × Node))
  | 0 => failure
  | fuel + 1 => do
    if ← take .flowMappingEnd then return []
    if !first then
      expect .flowEntry
      if ← take .flowMappingEnd then return []
    let entry ←
      if ← take .key then do
        let key ← if ← nextIn [.value, .flowEntry, .flowMappingEnd] then pure (.empty)
          else node false false fuel
        let value ←
          if ← take .value then do
            if ← nextIn [.flowEntry, .flowMappingEnd] then pure (.empty)
            else node false false fuel
          else pure (.empty)
        pure (key, value)
      else do pure (← node false false fuel, .empty)
    return entry :: (← flowEntries false fuel)

end

/-- The directives in front of a document, with the version that was given. -/
def directives : (fuel : Nat) → (version : Option (Nat × Nat)) → Compose Unit
  | 0, _ => failure
  | fuel + 1, version => do
    match ← peek, version with
    | some (.version major minor), none => do
      if major ≠ 1 ∨ (minor ≠ 1 ∧ minor ≠ 2) then failure
      advance
      directives fuel (some (major, minor))
    | some (.version _ _), some _ => failure
    | some (.tagHandle handle replacement), _ => do
      if ((← get).handles.lookup handle).isSome then failure
      advance
      modify fun s => { s with handles := (handle, replacement) :: s.handles }
      directives fuel version
    | _, _ => return ()

def isDirective : Token → Bool
  | .version _ _ | .tagHandle _ _ => true
  | _ => false

/-- The document of a text, if there is one. Nothing but end markers may follow it. -/
def document (fuel : Nat) : Compose (Option Node) := do
  match ← peek with
  | none => return none
  | some t =>
    let root ←
      if isDirective t ∨ t = .documentStart then do
        directives fuel none
        expect .documentStart
        match ← peek with
        | none | some .documentStart | some .documentEnd => pure (.empty)
        | some t => if isDirective t then pure (.empty) else node true false fuel
      else node true false fuel
    modify fun s => { s with tokens := s.tokens.dropWhile (· = .documentEnd) }
    if (← peek).isSome then failure
    return some root

end Composer

/-- The document that a text holds: nothing if the text is not well-formed, and no node if there is
no document in it. -/
def Node.parse? (text : String) : Option (Option Node) := do
  let tokens ← Token.scan? text
  (·.1) <$> (Composer.document (2 * tokens.length + 2)).run { tokens }

end ClusterProbe.Yaml
