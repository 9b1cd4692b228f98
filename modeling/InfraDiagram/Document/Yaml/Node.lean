import InfraDiagram.Document.Yaml.Lexer

/-!
# Nodes of YAML documents

The tree of a document as it is written: texts that are not interpreted yet, collections, and
aliases for nodes that were anchored before.

## Main definitions

- `Yaml.Node` — the tree
- `Yaml.Document` — a tree with the nodes that its aliases mean
- `Yaml.document?` — the only document of a text, if there is one

## Design notes

A node is read by recursion on the nesting that is still allowed; entries of a collection are read
in a loop that is bounded by the number of tokens. Anchors are numbered twice: by name, which is
what an alias keeps, and by place, which is what a name means in the end. A name that is given
again may thereby share its number with the next new name; the place noted last counts for both.
-/

namespace InfraDiagram.Yaml

/-- A node as it is written. -/
inductive Node where
  | scalar (tag : Option String) (plain : Bool) (text : String)
  | sequence (tag : Option String) (items : List Node)
  | mapping (tag : Option String) (pairs : List (Node × Node))
  | aliasNode (number : Nat)
  deriving Inhabited

/-- A document with the meaning of its aliases. -/
structure Document where
  root : Node
  /-- Places of anchors by their numbers, the latest first. -/
  places : List (Nat × Nat)
  /-- Anchored nodes by their places. -/
  anchored : List (Nat × Node)
  /-- The size of the document: one for a scalar or alias, two for a collection. -/
  size : Nat

/-- The state of reading a document. -/
structure Composer where
  tokens : List Token
  /-- Tag handles and what they stand for. -/
  handles : List (String × String)
  /-- Anchor names and their numbers. -/
  names : List (String × Nat)
  places : List (Nat × Nat)
  anchored : List (Nat × Node)
  /-- The number of anchors so far. -/
  anchors : Nat
  size : Nat
  /-- A bound for all loops: more than the number of tokens. -/
  bound : Nat

abbrev Compose := StateT Composer (Except Fault)

namespace Compose

def peek : Compose Token := do
  match (← get).tokens with
  | t :: _ => return t
  | [] => throw .unexpectedToken

def skip : Compose Unit :=
  modify fun s => { s with tokens := s.tokens.tail }

def skipIf (t : Token) : Compose Bool := do
  if (← peek) = t then
    skip
    return true
  else return false

/-- The bound for loops. -/
def bound : Compose Nat := do
  return (← get).bound

def count (n : Nat) : Compose Unit :=
  modify fun s => { s with size := s.size + n }

def nothing : Compose Node := do
  count 1
  return .scalar none true ""

def enterAnchor (name : String) : Compose Nat := do
  let s ← get
  let number := s.names.length
  let names := (name, number) :: s.names.filter fun (n, _) => n != name
  set { s with names, places := (number, s.anchors) :: s.places, anchors := s.anchors + 1 }
  return s.anchors

def fillAnchor (place : Nat) (node : Node) : Compose Unit :=
  modify fun s => { s with anchored := (place, node) :: s.anchored }

def aliasNode (name : String) : Compose Node := do
  match (← get).names.lookup name with
  | some number =>
    count 1
    return .aliasNode number
  | none => throw .unknownAnchor

def fullTag (handle suffix : String) : Compose String := do
  if handle.isEmpty then return suffix
  match (← get).handles.lookup handle with
  | some target => return target ++ suffix
  | none => throw .badTag

/-- The anchor and the tag in front of a node, in either order. -/
def properties : Compose (Option String × Option String) := do
  let anchor : Compose (Option String) := do
    match ← peek with
    | .anchor name =>
      skip
      return some name
    | _ => return none
  let tag : Compose (Option String) := do
    match ← peek with
    | .tag handle suffix =>
      skip
      return some (← fullTag handle suffix)
    | _ => return none
  match ← anchor with
  | some name => return (some name, ← tag)
  | none =>
    let t ← tag
    return (← anchor, t)

/-- How a node inside a collection is read: whether block collections may begin there, and whether
    a block sequence may begin without being indented. -/
abbrev NodeReader := Bool → Bool → Compose Node

/-- A node, or nothing if one of the given tokens comes next. -/
def nodeUnless (node : Compose Node) (ends : List Token) : Compose Node := do
  if ends.contains (← peek) then nothing else node

def blockSequence (node : NodeReader) (seen : List Node) : Nat → Compose (List Node)
  | 0 => throw .unexpectedToken
  | fuel + 1 => do
    match ← peek with
    | .blockEntry =>
      skip
      let item ← nodeUnless (node true false) [.blockEntry, .blockEnd]
      blockSequence node (item :: seen) fuel
    | .blockEnd =>
      skip
      return seen.reverse
    | _ => throw .unexpectedToken

/-- The entries of a block sequence that is not indented; whatever is no entry ends it. -/
def openSequence (node : NodeReader) (seen : List Node) : Nat → Compose (List Node)
  | 0 => throw .unexpectedToken
  | fuel + 1 => do
    if ← skipIf .blockEntry then
      let item ← nodeUnless (node true false) [.blockEntry, .key, .value, .blockEnd]
      openSequence node (item :: seen) fuel
    else return seen.reverse

def blockMapping (node : NodeReader) (seen : List (Node × Node)) :
    Nat → Compose (List (Node × Node))
  | 0 => throw .unexpectedToken
  | fuel + 1 => do
    match ← peek with
    | .key =>
      skip
      let ends := [.key, .value, .blockEnd]
      let key ← nodeUnless (node true true) ends
      let value ←
        if ← skipIf .value then nodeUnless (node true true) ends else nothing
      blockMapping node ((key, value) :: seen) fuel
    | .blockEnd =>
      skip
      return seen.reverse
    | _ => throw .unexpectedToken

def comma (first : Bool) : Compose Unit := do
  if !first then
    if !(← skipIf .flowEntry) then throw .unexpectedToken

/-- A single pair inside a flow sequence, behind the token of its key. A key that is missing takes
    the token after it along. -/
def flowPair (node : NodeReader) : Compose Node := do
  let ends := [.flowEntry, .flowSequenceEnd]
  let key ←
    if (.value :: ends).contains (← peek) then do
      skip
      nothing
    else node false false
  let value ← if ← skipIf .value then nodeUnless (node false false) ends else nothing
  count 2
  return .mapping none [(key, value)]

def flowSequence (node : NodeReader) (seen : List Node) : Nat → Compose (List Node)
  | 0 => throw .unexpectedToken
  | fuel + 1 => do
    if ← skipIf .flowSequenceEnd then return seen.reverse
    comma seen.isEmpty
    if ← skipIf .key then
      let pair ← flowPair node
      flowSequence node (pair :: seen) fuel
    else if ← skipIf .flowSequenceEnd then return seen.reverse
    else
      let item ← node false false
      flowSequence node (item :: seen) fuel

/-- The pairs of a flow mapping up to its brace. A key without a colon has nothing as its value. -/
def flowMapping (node : NodeReader) (seen : List (Node × Node)) :
    Nat → Compose (List (Node × Node))
  | 0 => throw .unexpectedToken
  | fuel + 1 => do
    if ← skipIf .flowMappingEnd then return seen.reverse
    comma seen.isEmpty
    let ends := [.flowEntry, .flowMappingEnd]
    if ← skipIf .key then
      let key ← nodeUnless (node false false) (.value :: ends)
      let value ← if ← skipIf .value then nodeUnless (node false false) ends else nothing
      flowMapping node ((key, value) :: seen) fuel
    else if ← skipIf .flowMappingEnd then return seen.reverse
    else
      let key ← node false false
      let value ← nothing
      flowMapping node ((key, value) :: seen) fuel

/-- The content of a node behind its properties. A node of properties only is an empty text. -/
def content (node : NodeReader) (block unindented : Bool) (tag : Option String) (bare : Bool) :
    Compose Node := do
  let fuel ← bound
  match ← peek with
  | .scalar plain text =>
    skip
    count 1
    return .scalar (if tag = some "!" then none else tag) plain text
  | .flowSequenceStart =>
    skip
    count 2
    return .sequence tag (← flowSequence node [] fuel)
  | .flowMappingStart =>
    skip
    count 2
    return .mapping tag (← flowMapping node [] fuel)
  | t =>
    if unindented && t = .blockEntry then
      count 2
      return .sequence tag (← openSequence node [] fuel)
    else if block && t = .blockSequenceStart then
      skip
      count 2
      return .sequence tag (← blockSequence node [] fuel)
    else if block && t = .blockMappingStart then
      skip
      count 2
      return .mapping tag (← blockMapping node [] fuel)
    else if bare then throw .unexpectedToken
    else
      count 1
      return .scalar tag true ""

/-- One node whose inner nodes are read by `node`. -/
def nodeWith (node : NodeReader) (block unindented : Bool) : Compose Node := do
  match ← peek with
  | .aliasName name =>
    skip
    aliasNode name
  | _ =>
    let (anchor, tag) ← properties
    let bare := anchor.isNone && tag.isNone
    match anchor with
    | none => content node block unindented tag bare
    | some name =>
      let place ← enterAnchor name
      let n ← content node block unindented tag bare
      fillAnchor place n
      return n

def node : Nat → NodeReader
  | 0 => fun _ _ => throw .tooDeep
  | depth + 1 => nodeWith (node depth)

/-- The directives before a document: at most one version, which must be known, and tag handles,
    none of them twice. -/
def directives (versioned : Bool) (handles : List (String × String)) :
    Nat → Compose (List (String × String))
  | 0 => throw .unexpectedToken
  | fuel + 1 => do
    match ← peek with
    | .versionDirective major minor =>
      if versioned || major != 1 || !(minor = 1 || minor = 2) then throw .badDirective
      skip
      directives true handles fuel
    | .tagDirective handle target =>
      if (handles.lookup handle).isSome then throw .badDirective
      skip
      directives versioned ((handle, target) :: handles) fuel
    | _ => return handles

/-- The handles that every document knows. -/
def standardHandles : List (String × String) :=
  [("!", "!"), ("!!", "tag:yaml.org,2002:")]

/-- Whether a token begins or ends a document, or belongs in front of one. -/
def isBoundary : Token → Bool
  | .versionDirective .. | .tagDirective .. | .documentStart | .documentEnd | .streamEnd => true
  | _ => false

def skipEnds : Nat → Compose Unit
  | 0 => pure ()
  | fuel + 1 => do
    if ← skipIf .documentEnd then skipEnds fuel

/-- The root of the first document, if there is one. Without a marker it begins at once. -/
def firstDocument (depth : Nat) : Compose (Option Node) := do
  match ← peek with
  | .streamEnd => return none
  | .versionDirective .. | .tagDirective .. | .documentStart =>
    let handles ← directives false [] (← bound)
    modify fun s => { s with handles := handles ++ standardHandles }
    if !(← skipIf .documentStart) then throw .unexpectedToken
    if isBoundary (← peek) then return some (← nothing)
    return some (← node depth true false)
  | _ => return some (← node depth true false)

/-- The first document; no other one may follow it. -/
def onlyDocument (depth : Nat) : Compose (Option Document) := do
  let some root ← firstDocument depth | return none
  skipEnds (← bound)
  if (← peek) != .streamEnd then throw .severalDocuments
  let s ← get
  return some ⟨root, s.places, s.anchored, s.size⟩

end Compose

/-- Collections nest at most this deep. -/
def collectionDepth : Nat := 128

/-- The only document of a text; none if the text holds no document. -/
def document? (text : String) : Except Fault (Option Document) := do
  let ts ← tokens text
  let start : Composer := ⟨ts, Compose.standardHandles, [], [], [], 0, 0, ts.length + 1⟩
  return (← (Compose.onlyDocument (collectionDepth + 2)).run start).1

end InfraDiagram.Yaml
