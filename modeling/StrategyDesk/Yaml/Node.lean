import StrategyDesk.Yaml.Tokens

/-!
# Nodes

The tree that the tokens of a YAML document make.

## Main Definitions

* `Node` — scalars, sequences, mappings and aliases
* `Node.ofTokens?` — the one document of a text
* `Node.descendants` — a node and all below it, in the order of the text

## Design Notes

An anchor is numbered by how many different names stand before it, so one that names a thing again
can share its number with a later one; the last node with a number is then the one it stands for.
All functions that read a node spend fuel at each step and take at least a token with every other
one, so the fuel that `ofTokens?` gives is enough.
-/

namespace StrategyDesk.Yaml

/-- What is written before a node. -/
structure Properties where
  /-- The number of its anchor. -/
  anchor : Option Nat
  tag : Option String
deriving DecidableEq, Repr

inductive Node where
  | scalar (properties : Properties) (text : String) (plain : Bool)
  | sequence (properties : Properties) (items : List Node)
  | mapping (properties : Properties) (entries : List (Node × Node))
  | alias (anchor : Nat)
deriving Repr

/-- The tokens that are left, and what the names in them stand for. -/
structure Reading where
  tokens : List Token
  /-- The prefixes of tag handles. -/
  handles : List (String × String)
  /-- The numbers of anchors, each name once. -/
  anchors : List (String × Nat)

/-- Reads a part of a document. -/
abbrev NodeReader := StateT Reading Option

namespace NodeReader

/-- The next token; past the last one there is nothing but the end. -/
def peek : NodeReader Token := return (← get).tokens.headD .streamEnd

def skip : NodeReader Unit := modify fun s => { s with tokens := s.tokens.tail }

/-- Goes over the next token if it is the given one, and tells whether it was. -/
def skipIf (token : Token) : NodeReader Bool := do
  if (← peek) = token then skip; return true else return false

/-- Goes over the next token, which must be the given one. -/
def expect (token : Token) : NodeReader Unit := do
  if !(← skipIf token) then failure

/-! ## Properties -/

/-- Numbers an anchor. -/
def addAnchor (name : String) : NodeReader Nat :=
  modifyGet fun s =>
    let number := s.anchors.length
    (number, { s with anchors := (name, number) :: s.anchors.filter (·.1 ≠ name) })

/-- A tag with its handle resolved. -/
def fullTag (handle suffix : String) : NodeReader String := do
  if handle = "" then return suffix
  else return (← (← get).handles.lookup handle) ++ suffix

/-- An anchor and a tag, in either order and each at most once. -/
def properties : NodeReader Properties := do
  let anchor : NodeReader (Option Nat) := do
    match ← peek with
    | .anchor name => skip; return some (← addAnchor name)
    | _ => return none
  let tag : NodeReader (Option String) := do
    match ← peek with
    | .tag handle suffix => skip; return some (← fullTag handle suffix)
    | _ => return none
  match ← anchor with
  | some number => return ⟨some number, ← tag⟩
  | none =>
    let tag ← tag
    return ⟨← anchor, tag⟩

/-! ## Nodes -/

/-- A scalar that is not written. -/
def unwritten : Node := .scalar ⟨none, none⟩ "" true

/-- A node, unless one of the given tokens shows that none is written. -/
def orUnwritten (ends : List Token) (node : NodeReader Node) : NodeReader Node := do
  if (← peek) ∈ ends then return unwritten else node

/-- The value of an entry whose key was read. -/
def entryValue (ends : List Token) (node : NodeReader Node) : NodeReader Node := do
  if ← skipIf .value then orUnwritten ends node else return unwritten

/-- The comma between the items of a flow collection. -/
def separator (first : Bool) : NodeReader Unit := if first then return else expect .flowEntry

/-- The tokens that end a part of an entry of a block mapping. -/
def entryEnds : List Token := [.key, .value, .blockEnd]

mutual

/-- A node. Only where `block` says so may it be a block, and only where `level` says so a sequence
whose entries stand at the column of the mapping around it. -/
def node (fuel : Nat) (block level : Bool) : NodeReader Node :=
  match fuel with
  | 0 => failure
  | fuel + 1 => do
    if let .alias name ← peek then
      skip
      return .alias (← (← get).anchors.lookup name)
    let properties ← properties
    let token ← peek
    match token with
    | .scalar text plain =>
      skip
      let properties := { properties with tag := properties.tag.filter (· ≠ "!") }
      return .scalar properties text plain
    | .flowSequenceStart => skip; return .sequence properties (← flowItems fuel true)
    | .flowMappingStart => skip; return .mapping properties (← flowEntries fuel true)
    | _ =>
      if level ∧ token = .blockEntry then return .sequence properties (← levelItems fuel)
      else if block ∧ token = .blockSequence then
        skip
        return .sequence properties (← blockItems fuel)
      else if block ∧ token = .blockMapping then
        skip
        return .mapping properties (← blockEntries fuel)
      else if properties = ⟨none, none⟩ then failure
      else return .scalar properties "" true

/-- The items of a block sequence. -/
def blockItems (fuel : Nat) : NodeReader (List Node) :=
  match fuel with
  | 0 => failure
  | fuel + 1 => do
    if ← skipIf .blockEntry then
      let item ← orUnwritten [.blockEntry, .blockEnd] (node fuel true false)
      return item :: (← blockItems fuel)
    else
      expect .blockEnd
      return []

/-- The items of a sequence that has no indentation of its own. -/
def levelItems (fuel : Nat) : NodeReader (List Node) :=
  match fuel with
  | 0 => failure
  | fuel + 1 => do
    if ← skipIf .blockEntry then
      let item ← orUnwritten (.blockEntry :: entryEnds) (node fuel true false)
      return item :: (← levelItems fuel)
    else return []

/-- The entries of a block mapping. -/
def blockEntries (fuel : Nat) : NodeReader (List (Node × Node)) :=
  match fuel with
  | 0 => failure
  | fuel + 1 => do
    if ← skipIf .key then
      let key ← orUnwritten entryEnds (node fuel true true)
      let value ← entryValue entryEnds (node fuel true true)
      return (key, value) :: (← blockEntries fuel)
    else
      expect .blockEnd
      return []

/-- The items of a flow sequence. An item may be the one entry of a mapping without braces. -/
def flowItems (fuel : Nat) (first : Bool) : NodeReader (List Node) :=
  match fuel with
  | 0 => failure
  | fuel + 1 => do
    if ← skipIf .flowSequenceEnd then return []
    separator first
    if ← skipIf .flowSequenceEnd then return []
    if ← skipIf .key then
      let key ←
        if (← peek) ∈ [Token.value, .flowEntry, .flowSequenceEnd] then
          -- What follows a key mark without a key is passed over.
          skip
          pure unwritten
        else node fuel false false
      let value ← entryValue [.flowEntry, .flowSequenceEnd] (node fuel false false)
      return .mapping ⟨none, none⟩ [(key, value)] :: (← flowItems fuel false)
    else
      let item ← node fuel false false
      return item :: (← flowItems fuel false)

/-- The entries of a flow mapping; a value may be left out. -/
def flowEntries (fuel : Nat) (first : Bool) : NodeReader (List (Node × Node)) :=
  match fuel with
  | 0 => failure
  | fuel + 1 => do
    if ← skipIf .flowMappingEnd then return []
    separator first
    if ← skipIf .flowMappingEnd then return []
    let ends := [Token.flowEntry, .flowMappingEnd]
    if ← skipIf .key then
      let key ← orUnwritten (.value :: ends) (node fuel false false)
      let value ← entryValue ends (node fuel false false)
      return (key, value) :: (← flowEntries fuel false)
    else
      let key ← node fuel false false
      return (key, unwritten) :: (← flowEntries fuel false)

end

/-! ## Documents -/

/-- The directives before a document. A version is named at most once and must be 1.1 or 1.2, and
no handle is given two prefixes. -/
def directives (fuel : Nat) (versioned : Bool) : NodeReader Unit :=
  match fuel with
  | 0 => failure
  | fuel + 1 => do
    match ← peek with
    | .version major minor =>
      skip
      if versioned ∨ major ≠ 1 ∨ (minor ≠ 1 ∧ minor ≠ 2) then failure
      directives fuel true
    | .tagPrefix handle pre =>
      skip
      if ((← get).handles.lookup handle).isSome then failure
      modify fun s => { s with handles := (handle, pre) :: s.handles }
      directives fuel versioned
    | _ => return

/-- The prefixes that handles have unless a directive gives others. -/
def commonHandles : List (String × String) := [("!", "!"), ("!!", "tag:yaml.org,2002:")]

/-- Goes over marks of a document's end. -/
def skipEnds (fuel : Nat) : NodeReader Unit :=
  match fuel with
  | 0 => return
  | fuel + 1 => do if ← skipIf .documentEnd then skipEnds fuel

/-- The token stands before a document, not in it. -/
def isDirective : Token → Bool
  | .version .. | .tagPrefix .. => true
  | _ => false

/-- The one document of a text; a text without any stands for an empty one. -/
def document (fuel : Nat) : NodeReader Node := do
  let token ← peek
  if token = .streamEnd then return unwritten
  let isMarked := isDirective token || token == .documentStart
  if isMarked then
    directives fuel false
    expect .documentStart
  modify fun s => { s with handles := s.handles ++ commonHandles }
  let token ← peek
  let isAbsent :=
    isMarked && (isDirective token || token ∈ [Token.documentStart, .documentEnd, .streamEnd])
  let root ← if isAbsent then pure unwritten else node fuel true false
  skipEnds fuel
  expect .streamEnd
  return root

end NodeReader

namespace Node

/-- The document of a text's tokens; there must not be a second one. -/
def ofTokens? (tokens : List Token) : Option Node :=
  ((NodeReader.document (4 * tokens.length + 8)).run ⟨tokens, [], []⟩).map (·.1)

mutual

/-- A node and all below it, in the order of the text. -/
def descendants : Node → List Node
  | .sequence properties items => .sequence properties items :: itemsDescendants items
  | .mapping properties entries => .mapping properties entries :: entriesDescendants entries
  | node => [node]

def itemsDescendants : List Node → List Node
  | [] => []
  | item :: items => item.descendants ++ itemsDescendants items

def entriesDescendants : List (Node × Node) → List Node
  | [] => []
  | (key, value) :: entries =>
    key.descendants ++ value.descendants ++ entriesDescendants entries

end

/-- The number of a node's anchor. -/
def anchor? : Node → Option Nat
  | .scalar properties .. | .sequence properties _ | .mapping properties _ => properties.anchor
  | .alias _ => none

end Node

end StrategyDesk.Yaml
