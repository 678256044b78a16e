import VisualRegression.Yaml.Tokens

/-!
# Documents

The node that the tokens of a document stand for. A name stands for the node that it was given to
last; a text with more than one document is refused.
-/

namespace VisualRegression.Yaml

/-- A document as far as its nodes are read. -/
structure Document where
  /-- The tokens that are left. -/
  tokens : List Token
  /-- The nodes that were given names, the last one at the end. -/
  anchors : Array (String × Yaml) := #[]
  /-- The handles of tags and what the tags start with. -/
  handles : List (String × String) := []

/-- Readers of nodes; there is no result where the document is malformed. -/
abbrev NodeReader := StateT Document Option

/-- The handles that are always there. -/
def ownHandles : List (String × String) := [("!", "!"), ("!!", ownTags)]

/-- The next token. -/
def nextToken? : NodeReader (Option Token) := return (← get).tokens.head?

/-- Skips a token. -/
def skipToken : NodeReader Unit := modify fun d => { d with tokens := d.tokens.drop 1 }

/-- Skips a token if it comes next, and tells whether it did. -/
def skip? (t : Token) : NodeReader Bool := do
  if (← nextToken?) = some t then
    skipToken
    return true
  else return false

/-- One of some tokens comes next, or none at all. -/
def nextIs (ts : List Token) : NodeReader Bool := return (← nextToken?).all ts.contains

/-- A name and a tag in front of a node. -/
structure Properties where
  anchor : Option String := none
  tag : Option Tag := none

/-- Reads at most one name and at most one tag. -/
def readProperties : NodeReader Properties := do
  let rec more : Nat → Properties → NodeReader Properties
    | 0, p => return p
    | fuel + 1, p => do
      match ← nextToken?, p with
      | some (.anchor name), { anchor := none, tag } =>
        skipToken
        more fuel ⟨some name, tag⟩
      | some (.tag t), { anchor, tag := none } =>
        skipToken
        more fuel ⟨anchor, some t⟩
      | _, _ => return p
  more 2 {}

/-- The whole of a tag. -/
def wholeTag (t : Tag) : NodeReader String := do
  if t.handle = "" then return t.name
  let some start := (← get).handles.lookup t.handle | failure
  return start ++ t.name

/-- The node that was given a name last. -/
def namedNode (name : String) : NodeReader Yaml := do
  let some (_, node) := (← get).anchors.toList.reverse.find? (·.1 == name) | failure
  return node

/-- Reads a node and gives it a name. Within itself, the name stands for a sequence without items.
-/
def withAnchor (anchor : Option String) (part : NodeReader Yaml) : NodeReader Yaml := do
  match anchor with
  | none => part
  | some name =>
    let i := (← get).anchors.size
    modify fun d => { d with anchors := d.anchors.push (name, .sequence []) }
    let node ← part
    modify fun d => { d with anchors := d.anchors.setIfInBounds i (name, node) }
    return node

mutual

/-- Reads a node. `block` says that it may be a block, and `dashes` that the items of a sequence may
come without an indentation of their own. -/
def readNode (block dashes : Bool) : Nat → NodeReader Yaml
  | 0 => failure
  | fuel + 1 => do
    if let some (.alias name) := ← nextToken? then
      skipToken
      namedNode name
    else
      let p ← readProperties
      let tag ← p.tag.mapM wholeTag
      withAnchor p.anchor (readContent block dashes p.anchor.isSome tag fuel)
termination_by structural fuel => fuel

/-- Reads what a node holds. A node with a name or a tag may hold nothing. -/
def readContent (block dashes named : Bool) (tag : Option String) : Nat → NodeReader Yaml
  | 0 => failure
  | fuel + 1 => do
    match ← nextToken? with
    | some (.scalar style text) =>
      skipToken
      return .scalar (style.form tag) text
    | some .flowSequenceStart =>
      skipToken
      readFlowItems true [] fuel
    | some .flowMappingStart =>
      skipToken
      readFlowEntries true [] fuel
    | t =>
      if t = some .item ∧ dashes then readDashes [] fuel
      else if t = some .blockSequenceStart ∧ block then
        skipToken
        readItems [] fuel
      else if t = some .blockMappingStart ∧ block then
        skipToken
        readEntries [] fuel
      else
        guard (named || tag.isSome)
        return nothing
termination_by structural fuel => fuel

/-- Reads a node, or nothing if one of some tokens comes next. -/
def readUnless (stops : List Token) (block dashes : Bool) : Nat → NodeReader Yaml
  | 0 => failure
  | fuel + 1 => do
    if ← nextIs stops then return nothing else readNode block dashes fuel
termination_by structural fuel => fuel

/-- Reads the items of a sequence up to the end of its block. -/
def readItems (items : List Yaml) : Nat → NodeReader Yaml
  | 0 => failure
  | fuel + 1 => do
    if ← skip? .blockEnd then return .sequence items.reverse
    guard (← skip? .item)
    let item ← readUnless [.item, .blockEnd] true false fuel
    readItems (item :: items) fuel
termination_by structural fuel => fuel

/-- Reads the items of a sequence without an indentation of its own. -/
def readDashes (items : List Yaml) : Nat → NodeReader Yaml
  | 0 => failure
  | fuel + 1 => do
    if ← skip? .item then
      let item ← readUnless [.item, .key, .value, .blockEnd] true false fuel
      readDashes (item :: items) fuel
    else return .sequence items.reverse
termination_by structural fuel => fuel

/-- Reads the entries of a mapping up to the end of its block. -/
def readEntries (entries : List (Yaml × Yaml)) : Nat → NodeReader Yaml
  | 0 => failure
  | fuel + 1 => do
    if ← skip? .blockEnd then return .mapping entries.reverse
    guard (← skip? .key)
    let key ← readUnless [.key, .value, .blockEnd] true true fuel
    let value ←
      if ← skip? .value then readUnless [.key, .value, .blockEnd] true true fuel else pure nothing
    readEntries ((key, value) :: entries) fuel
termination_by structural fuel => fuel

/-- Reads the items of a sequence up to its closing bracket. An item may be a single entry. -/
def readFlowItems (first : Bool) (items : List Yaml) : Nat → NodeReader Yaml
  | 0 => failure
  | fuel + 1 => do
    if ← skip? .flowSequenceEnd then return .sequence items.reverse
    if !first then
      guard (← skip? .comma)
      if ← skip? .flowSequenceEnd then return .sequence items.reverse
    let item ←
      if ← skip? .key then readSingleEntry fuel else readNode false false fuel
    readFlowItems false (item :: items) fuel
termination_by structural fuel => fuel

/-- Reads an entry that is an item. A sign where its key should be stands for the key. -/
def readSingleEntry : Nat → NodeReader Yaml
  | 0 => failure
  | fuel + 1 => do
    let key ←
      if ← nextIs [.value, .comma, .flowSequenceEnd] then
        skipToken
        pure nothing
      else readNode false false fuel
    let value ←
      if ← skip? .value then readUnless [.comma, .flowSequenceEnd] false false fuel
      else pure nothing
    return .mapping [(key, value)]
termination_by structural fuel => fuel

/-- Reads the entries of a mapping up to its closing bracket. -/
def readFlowEntries (first : Bool) (entries : List (Yaml × Yaml)) : Nat → NodeReader Yaml
  | 0 => failure
  | fuel + 1 => do
    if ← skip? .flowMappingEnd then return .mapping entries.reverse
    if !first then
      guard (← skip? .comma)
      if ← skip? .flowMappingEnd then return .mapping entries.reverse
    let entry ←
      if ← skip? .key then do
        let key ← readUnless [.value, .comma, .flowMappingEnd] false false fuel
        let value ←
          if ← skip? .value then readUnless [.comma, .flowMappingEnd] false false fuel
          else pure nothing
        pure (key, value)
      else do
        pure (← readNode false false fuel, nothing)
    readFlowEntries false (entry :: entries) fuel
termination_by structural fuel => fuel

end

/-- Reads the directives in front of a document, and tells whether there are some. Each handle is
defined at most once, and so is the version. -/
def readDirectives (versioned : Bool) : Nat → NodeReader Bool
  | 0 => failure
  | fuel + 1 => do
    match ← nextToken? with
    | some (.version major minor) =>
      guard (!versioned && major == 1 && (minor == 1 || minor == 2))
      skipToken
      let _ ← readDirectives true fuel
      return true
    | some (.handle name start) =>
      guard ((← get).handles.lookup name).isNone
      modify fun d => { d with handles := (name, start) :: d.handles }
      skipToken
      let _ ← readDirectives versioned fuel
      return true
    | _ => return versioned

/-- Skips marks of the end of a document. -/
def skipEndMarks : Nat → NodeReader Unit
  | 0 => return
  | fuel + 1 => do
    if ← skip? .documentEnd then skipEndMarks fuel

/-- Reads the one document that there may be. -/
def readDocument (fuel : Nat) : NodeReader Yaml := do
  if (← get).tokens.isEmpty then return nothing
  let directives ← readDirectives false fuel
  modify fun d => { d with handles := d.handles ++ ownHandles }
  let started ← skip? .documentStart
  guard (started || !directives)
  let empty := started && (match ← nextToken? with
    | some (.version _ _) | some (.handle _ _) => true
    | some .documentStart | some .documentEnd | none => true
    | _ => false)
  let node ← if empty then pure nothing else readNode true false fuel
  skipEndMarks fuel
  guard (← get).tokens.isEmpty
  return node

/-- Reads the one document in a text. -/
def read? (text : List Char) : Option Yaml := do
  let tokens ← tokens? text
  let (node, _) ← (readDocument (3 * tokens.length + 8)).run { tokens }
  return node

end VisualRegression.Yaml
