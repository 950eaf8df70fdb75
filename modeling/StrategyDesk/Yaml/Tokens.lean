import StrategyDesk.Yaml.Scalar

/-!
# Tokens

The tokens of a YAML text. Indentation becomes tokens of its own, which open and close blocks.

## Main Definitions

* `Token`
* `Scan` — a text of which a part has become tokens
* `tokens?` — the tokens of a text

## Design Notes

That something was a key is seen only at the colon after it. Until then its place among the tokens
is remembered, and at the colon the tokens before the key are put there. A key ends on the line
where it begins, and within 1024 characters.
-/

namespace StrategyDesk.Yaml

inductive Token where
  | version (major minor : Nat)
  | tagPrefix (handle pre : String)
  | documentStart
  | documentEnd
  | blockSequence
  | blockMapping
  | blockEnd
  | flowSequenceStart
  | flowSequenceEnd
  | flowMappingStart
  | flowMappingEnd
  | blockEntry
  | flowEntry
  | key
  | value
  | anchor (name : String)
  | alias (name : String)
  | tag (handle suffix : String)
  | scalar (text : String) (plain : Bool)
  /-- The end of the text. -/
  | streamEnd
deriving DecidableEq, Repr

/-- Something that turns out to be a key if a colon follows. -/
structure PossibleKey where
  /-- How many tokens stand before it. -/
  before : Nat
  index : Nat
  line : Nat
  column : Nat
  /-- Nothing but a key may stand at its place. -/
  isRequired : Bool
deriving Repr

structure Scan where
  cursor : Cursor
  /-- The last one first. -/
  tokens : List Token
  /-- The column of the innermost block; `-1` outside of blocks. -/
  indent : Int
  /-- The columns of the blocks around it. -/
  outer : List Int
  /-- The possible key of each flow collection that is open, the innermost first, and last that of
  the block around them. -/
  keys : List (Option PossibleKey)
  /-- A key may begin here. -/
  mayBeKey : Bool
deriving Repr

namespace Scan

def start (text : List Char) : Scan := ⟨.start text, [], -1, [], [none], true⟩

def inFlow (s : Scan) : Bool := 1 < s.keys.length

/-- Adds a token. -/
def push (s : Scan) (token : Token) : Scan := { s with tokens := token :: s.tokens }

/-- Puts tokens at a place among those there are, which is given by how many stand before it. -/
def insertAt (s : Scan) (before : Nat) (new : List Token) : Scan :=
  let later := s.tokens.length - before
  { s with tokens := s.tokens.take later ++ new.reverse ++ s.tokens.drop later }

/-- Goes over characters of one line. -/
def skip (s : Scan) (n : Nat) : Scan := { s with cursor := s.cursor.skip n }

/-- Says whether a key may begin here. -/
def allowKey (s : Scan) (mayBeKey : Bool) : Scan := { s with mayBeKey }

/-! ## Possible keys -/

/-- The possible key cannot become one any more. -/
def isStale (s : Scan) (k : PossibleKey) : Bool :=
  k.line < s.cursor.line || k.index + 1024 < s.cursor.index

/-- Forgets the keys that cannot become one any more; a required one must not be among them. -/
def dropStale? (s : Scan) : Option Scan := do
  let keep (key : Option PossibleKey) : Option (Option PossibleKey) :=
    match key with
    | none => some none
    | some k => if !s.isStale k then some (some k) else if k.isRequired then none else some none
  some { s with keys := ← s.keys.mapM keep }

/-- Forgets the possible key of the innermost level, unless it is required. -/
def dropKey? (s : Scan) : Option Scan :=
  match s.keys with
  | some k :: keys => if k.isRequired then none else some { s with keys := none :: keys }
  | _ => some s

/-- Remembers that a key may begin here. -/
def saveKey? (s : Scan) : Option Scan :=
  if s.mayBeKey then do
    let s ← s.dropKey?
    let here : PossibleKey := {
      before := s.tokens.length, index := s.cursor.index, line := s.cursor.line
      column := s.cursor.column
      isRequired := !s.inFlow && s.indent == (s.cursor.column : Int) }
    some { s with keys := some here :: s.keys.drop 1 }
  else some s

/-! ## Blocks -/

/-- Closes the blocks right of a column. -/
def closeBlocks (s : Scan) (column : Int) : Scan :=
  if s.inFlow then s
  else
    let rec close (indent : Int) (tokens : List Token) : List Int → Int × List Int × List Token
      | [] => (indent, [], tokens)
      | next :: outer =>
        if column < indent then close next (.blockEnd :: tokens) outer
        else (indent, next :: outer, tokens)
    let (indent, outer, tokens) := close s.indent s.tokens s.outer
    { s with indent, outer, tokens }

/-- Opens a block at a column right of the innermost one, with its token at a place among those
there are. -/
def openBlock (s : Scan) (column before : Nat) (token : Token) : Scan :=
  if !s.inFlow ∧ s.indent < (column : Int) then
    { s.insertAt before [token] with indent := column, outer := s.indent :: s.outer }
  else s

/-- Opens a block here. -/
def openHere (s : Scan) (token : Token) : Scan :=
  s.openBlock s.cursor.column s.tokens.length token

/-! ## Indicators -/

/-- A mark of documents, or the end of the text: all blocks are closed. -/
def closeAll? (s : Scan) : Option Scan := (s.closeBlocks (-1)).dropKey?.map (allowKey · false)

def documentMark? (s : Scan) (token : Token) : Option Scan := do
  some ((← s.closeAll?).push token |>.skip 3)

def openFlow? (s : Scan) (token : Token) : Option Scan := do
  let s ← s.saveKey?
  some (({ s with keys := none :: s.keys, mayBeKey := true }.push token).skip 1)

def closeFlow? (s : Scan) (token : Token) : Option Scan := do
  let s ← s.dropKey?
  let keys := match s.keys with
    | _ :: next :: keys => next :: keys
    | keys => keys
  some (({ s with keys, mayBeKey := false }.push token).skip 1)

def flowEntry? (s : Scan) : Option Scan := do
  some (((← s.dropKey?).allowKey true |>.push .flowEntry).skip 1)

/-- Opens a block here if there is need for it; in a block that takes a place where a key may
begin. -/
def enterBlock? (s : Scan) (token : Token) : Option Scan :=
  if s.inFlow then some s else if s.mayBeKey then some (s.openHere token) else none

def blockEntry? (s : Scan) : Option Scan := do
  let s ← s.enterBlock? .blockSequence
  some (((← s.dropKey?).allowKey true |>.push .blockEntry).skip 1)

def keyMark? (s : Scan) : Option Scan := do
  let s ← s.enterBlock? .blockMapping
  some (((← s.dropKey?).allowKey (!s.inFlow) |>.push .key).skip 1)

/-- A colon: the possible key becomes one, or else the value has a key that was marked, or none. -/
def valueMark? (s : Scan) : Option Scan := do
  let s ← match s.keys with
    | some k :: keys =>
      let s := (s.insertAt k.before [.key]).openBlock k.column k.before .blockMapping
      some ({ s with keys := none :: keys }.allowKey false)
    | _ => (s.enterBlock? .blockMapping).map (·.allowKey (!s.inFlow))
  some ((s.push .value).skip 1)

/-! ## Names and tags -/

/-- A character of names. -/
def isNameChar (c : Char) : Bool := c.isAlphanum || c == '_' || c == '-'

/-- A character that may follow a name. -/
def endsName (text : List Char) : Bool :=
  atBlankOrEnd text || (text.head?.map "?:,]\x7d%@\x60".toList.contains).getD false

/-- The name of an anchor or alias. -/
def name? (s : Scan) (token : String → Token) : Option Scan := do
  let s := ((← s.saveKey?).allowKey false).skip 1
  let name := s.cursor.run isNameChar
  let s := s.skip name.length
  if name.isEmpty ∨ !endsName s.cursor.rest then none
  else some (s.push (token (String.ofList name)))

/-- A character of tags; the punctuation of flow collections only in full ones. -/
def isTagChar (full : Bool) (c : Char) : Bool :=
  isNameChar c || ";/?:@&=+$.%!~*'()".toList.contains c || (full && ",[]".toList.contains c)

/-- The bytes of a tag, percent codes decoded. -/
def tagBytes? : List Char → Option (List UInt8)
  | [] => some []
  | '%' :: a :: b :: rest => do
    let byte := ← digitsInBase? 16 [a, b]
    some (.ofNat byte :: (← tagBytes? rest))
  | '%' :: _ => none
  | c :: rest => do some ((String.singleton c).toUTF8.toList ++ (← tagBytes? rest))

/-- The text of a tag, percent codes decoded. -/
def tagText? (text : List Char) : Option String := do
  String.fromUTF8? (ByteArray.mk (← tagBytes? text).toArray)

/-- A handle: an exclamation mark, name characters, and another mark if there is one. -/
def handleLength (text : List Char) : Nat :=
  let run := (text.drop 1).takeWhile isNameChar
  if (text.drop (1 + run.length)).head? = some '!' then run.length + 2 else run.length + 1

/-- A tag: in full between angle brackets, after a handle, or after the exclamation mark alone. -/
def tagToken? (c : Cursor) : Option (Token × Cursor) :=
  if c.rest.take 2 = ['!', '<'] then do
    let c := c.skip 2
    let run := c.run (isTagChar true)
    let c := c.skip run.length
    if run.isEmpty ∨ c.peek? ≠ some '>' then none
    else some (.tag "" (← tagText? run), c.skip 1)
  else
    let handle := c.rest.take (handleLength c.rest)
    if 1 < handle.length ∧ handle.getLast? = some '!' then do
      let c := c.skip handle.length
      let run := c.run (isTagChar false)
      if run.isEmpty then none
      else some (.tag (String.ofList handle) (← tagText? run), c.skip run.length)
    else do
      let run := (c.skip 1).run (isTagChar false)
      let suffix ← tagText? run
      let c := c.skip (1 + run.length)
      some (if suffix = "" then .tag "" "!" else .tag "!" suffix, c)

def tag? (s : Scan) : Option Scan := do
  let s := (← s.saveKey?).allowKey false
  let (token, c) ← tagToken? s.cursor
  if (s.inFlow ∧ c.peek? = some ',') ∨ atBlankOrEnd c.rest then
    some ({ s with cursor := c }.push token)
  else none

/-! ## Directives -/

/-- A number of a version, of at most nine digits. -/
def readVersionNumber? (c : Cursor) : Option (Nat × Cursor) :=
  let digits := c.run Char.isDigit
  if digits.isEmpty ∨ 9 < digits.length then none
  else some (digitsValue 0 digits, c.skip digits.length)

def versionToken? (c : Cursor) : Option (Token × Cursor) := do
  let (major, c) ← readVersionNumber? (c.skipWhile isBlank)
  if c.peek? ≠ some '.' then none
  else
    let (minor, c) ← readVersionNumber? (c.skip 1)
    some (.version major minor, c)

def prefixToken? (c : Cursor) : Option (Token × Cursor) := do
  let c := c.skipWhile isBlank
  if c.peek? ≠ some '!' then none
  else
    let handle := c.rest.take (handleLength c.rest)
    let c := c.skip handle.length
    if (1 < handle.length ∧ handle.getLast? ≠ some '!') ∨
        (c.peek?.map isBlank) ≠ some true then none
    else
      let c := c.skipWhile isBlank
      let run := c.run (isTagChar true)
      let c := c.skip run.length
      if run.isEmpty ∨ !atBlankOrEnd c.rest then none
      else some (.tagPrefix (String.ofList handle) (← tagText? run), c)

def directive? (s : Scan) : Option Scan := do
  let s ← s.closeAll?
  let c := s.cursor.skip 1
  let name := c.run isNameChar
  let c := c.skip name.length
  if !atBlankOrEnd c.rest then none
  else
    let (token, c) ←
      if String.ofList name = "YAML" then versionToken? c
      else if String.ofList name = "TAG" then prefixToken? c
      else none
    some ({ s with cursor := ← c.finishLine? }.push token)

/-! ## Scalars -/

def quoted? (s : Scan) (single : Bool) : Option Scan := do
  let s := (← s.saveKey?).allowKey false
  let c := s.cursor.skip 1
  let (text, c) ← readQuoted? (c.rest.length + 1) single [] c
  some ({ s with cursor := c }.push (.scalar (String.ofList text) false))

def plain? (s : Scan) : Option Scan := do
  let s := (← s.saveKey?).allowKey false
  let (text, broken, c) ←
    readPlain? (2 * s.cursor.rest.length + 2) s.inFlow s.indent [] .empty s.cursor
  some ({ s with cursor := c, mayBeKey := broken }.push (.scalar (String.ofList text) true))

def block? (s : Scan) (literal : Bool) : Option Scan := do
  let s := (← s.dropKey?).allowKey true
  let (text, c) ← readBlock? literal s.indent (s.cursor.skip 1)
  some ({ s with cursor := c }.push (.scalar (String.ofList text) false))

/-! ## The next token -/

/-- Goes to the next token. In a block a tab may not stand where a key may begin, and each new
line is such a place. -/
def seek (fuel : Nat) (s : Scan) : Scan :=
  match fuel with
  | 0 => s
  | fuel + 1 =>
    let s := if s.cursor.column = 0 ∧ s.cursor.peek? = some '\uFEFF' then s.skip 1 else s
    let isGap (c : Char) : Bool := c == ' ' || (c == '\t' && (s.inFlow || !s.mayBeKey))
    let c := s.cursor.skipWhile isGap
    let c := if c.peek? = some '#' then c.skipWhile (!isBreak ·) else c
    match c.rest with
    | b :: _ =>
      if isBreak b then
        seek fuel { s with cursor := c.skipBreak, mayBeKey := s.mayBeKey || !s.inFlow }
      else { s with cursor := c }
    | [] => { s with cursor := c }

/-- The character cannot begin a plain scalar, unless by what follows it. -/
def isIndicator (c : Char) : Bool := "-?:,[]\x7b\x7d#&*!|>'\"%@\x60".toList.contains c

/-- A plain scalar begins here. -/
def atPlain (s : Scan) (c : Char) (rest : List Char) : Bool :=
  (!isBlank c && !isBreak c && !isIndicator c)
    || (c == '-' && (rest.head?.map isBlank) != some true)
    || (!s.inFlow && (c == '?' || c == ':') && !atBlankOrEnd rest)

/-- Reads the token that begins with a character. -/
def read? (s : Scan) (c : Char) (rest : List Char) : Option Scan :=
  let marked := s.inFlow || atBlankOrEnd rest
  if s.cursor.column = 0 ∧ c = '%' then s.directive?
  else if s.cursor.isAtMark '-' then s.documentMark? .documentStart
  else if s.cursor.isAtMark '.' then s.documentMark? .documentEnd
  else if c = '[' then s.openFlow? .flowSequenceStart
  else if c = '\x7b' then s.openFlow? .flowMappingStart
  else if c = ']' then s.closeFlow? .flowSequenceEnd
  else if c = '\x7d' then s.closeFlow? .flowMappingEnd
  else if c = ',' then s.flowEntry?
  else if c = '-' ∧ atBlankOrEnd rest then s.blockEntry?
  else if c = '?' ∧ marked then s.keyMark?
  else if c = ':' ∧ marked then s.valueMark?
  else if c = '*' then s.name? .alias
  else if c = '&' then s.name? .anchor
  else if c = '!' then s.tag?
  else if c = '|' ∧ !s.inFlow then s.block? true
  else if c = '>' ∧ !s.inFlow then s.block? false
  else if c = '\'' then s.quoted? true
  else if c = '"' then s.quoted? false
  else if s.atPlain c rest then s.plain?
  else none

/-- Reads tokens to the end of the text. -/
def readAll? (fuel : Nat) (s : Scan) : Option (List Token) :=
  match fuel with
  | 0 => none
  | fuel + 1 => do
    let s ← (s.seek (s.cursor.rest.length + 1)).dropStale?
    let s := s.closeBlocks s.cursor.column
    match s.cursor.rest with
    | [] => some ((← s.closeAll?).push .streamEnd).tokens.reverse
    | c :: rest => readAll? fuel (← s.read? c rest)

end Scan

/-- The tokens of a text; a byte order mark before it is skipped. -/
def tokens? (text : String) : Option (List Token) :=
  let chars := match text.toList with
    | '\uFEFF' :: rest => rest
    | chars => chars
  if chars.all isYamlChar then
    let chars := uniformBreaks chars
    (Scan.start chars).readAll? (chars.length + 1)
  else none

end StrategyDesk.Yaml
