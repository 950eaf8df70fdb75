import StrategyDesk.Number.Reading
import StrategyDesk.Yaml.Cursor

/-!
# Scalars

The texts of a YAML document: plain, between quotes, and in blocks.

## Main Definitions

* `readQuoted?`, `readPlain?`, `readBlock?`
-/

namespace StrategyDesk.Yaml

/-! ## Between quotes -/

/-- The character that a letter stands for after a backslash. -/
def escapedChar? (c : Char) : Option Char :=
  match c with
  | '0' => some (Char.ofNat 0)
  | 'a' => some (Char.ofNat 0x07)
  | 'b' => some (Char.ofNat 0x08)
  | 't' | '\t' => some '\t'
  | 'n' => some '\n'
  | 'v' => some (Char.ofNat 0x0B)
  | 'f' => some (Char.ofNat 0x0C)
  | 'r' => some '\r'
  | 'e' => some (Char.ofNat 0x1B)
  | ' ' => some ' '
  | '"' => some '"'
  | '/' => some '/'
  | '\\' => some '\\'
  | 'N' => some (Char.ofNat 0x85)
  | '_' => some (Char.ofNat 0xA0)
  | 'L' => some (Char.ofNat 0x2028)
  | 'P' => some (Char.ofNat 0x2029)
  | _ => none

/-- How many hexadecimal digits follow a letter after a backslash. -/
def escapeWidth (c : Char) : Nat :=
  if c = 'x' then 2 else if c = 'u' then 4 else if c = 'U' then 8 else 0

/-- The character of hexadecimal digits. -/
def hexChar? (digits : List Char) : Option Char := do
  let n ← digitsInBase? 16 digits
  if h : n.isValidChar then some (Char.ofNatAux n h) else none

/-- An escape, its backslash already taken: the character, and how much of the text it takes. -/
def readEscape? : List Char → Option (Char × Nat)
  | [] => none
  | c :: rest =>
    let width := escapeWidth c
    if width = 0 then (escapedChar? c).map (·, 1)
    else if (rest.take width).length = width then
      (hexChar? (rest.take width)).map (·, width + 1)
    else none

/-- A quoted scalar from inside it on. `text` is what was read before. -/
def readQuoted? (fuel : Nat) (single : Bool) (text : List Char) (c : Cursor) :
    Option (List Char × Cursor) :=
  match fuel with
  | 0 => none
  | fuel + 1 =>
    if c.isAtDocumentMark then none
    else
      match c.rest with
      | [] => none
      | '\'' :: '\'' :: _ =>
        if single then readQuoted? fuel single (text ++ ['\'']) (c.skip 2)
        else readQuoted? fuel single (text ++ ['\'']) (c.skip 1)
      | '\\' :: rest =>
        if single then readQuoted? fuel single (text ++ ['\\']) (c.skip 1)
        else
          match rest with
          | [] => none
          | b :: _ =>
            if isBreak b then do
              let (gap, c) ← (c.skip 1).skipBreak.readGap? 0 ⟨true, [], [], []⟩
              readQuoted? fuel single (text ++ gap.text) c
            else do
              let (e, width) ← readEscape? rest
              readQuoted? fuel single (text ++ [e]) (c.skip (width + 1))
      | q :: _ =>
        if q = (if single then '\'' else '"') then some (text, c.skip 1)
        else if isBlank q ∨ isBreak q then do
          let (gap, c) ← c.readGap? 0 .empty
          readQuoted? fuel single (text ++ gap.text) c
        else readQuoted? fuel single (text ++ [q]) (c.skip 1)

/-! ## Plain -/

/-- The punctuation of flow collections. -/
def isFlowMark (c : Char) : Bool := c == ',' || c == '[' || c == ']' || c == '\x7b' || c == '\x7d'

/-- A plain scalar and whether it ends on a later line than it began. `gap` is what stands between
`text` and the position; it counts only if the scalar goes on. -/
def readPlain? (fuel : Nat) (inFlow : Bool) (indent : Int) (text : List Char) (gap : Gap)
    (c : Cursor) : Option (List Char × Bool × Cursor) :=
  match fuel with
  | 0 => none
  | fuel + 1 =>
    let ended := some (text, gap.isBroken, c)
    let fresh := gap.isBroken || !gap.blanks.isEmpty || text.isEmpty
    if fresh ∧ (c.isAtDocumentMark ∨ c.peek? = some '#') then ended
    else
      match c.rest with
      | [] => ended
      | a :: rest =>
        if isBlank a ∨ isBreak a then do
          let (gap, c) ← c.readGap? (indent + 1) .empty
          if !inFlow ∧ (c.column : Int) < indent + 1 then some (text, gap.isBroken, c)
          else readPlain? fuel inFlow indent text gap c
        else if inFlow ∧ a = ':' ∧
            (rest.head?.map fun b => b == '?' || isFlowMark b) = some true then
          none
        else if a = ':' ∧ atBlankOrEnd rest then ended
        else if inFlow ∧ isFlowMark a then ended
        else readPlain? fuel inFlow indent (text ++ gap.text ++ [a]) .empty (c.skip 1)

/-! ## Blocks -/

/-- What is done with the line ends at the end of a block. -/
inductive Chomping where
  | strip
  | clip
  | keep
deriving DecidableEq, Repr

/-- The marks after the indicator of a block: how line ends are treated, and how far it is
indented, if that is said. -/
def readBlockMarks? (c : Cursor) : Option (Chomping × Option Nat × Cursor) :=
  let chomping? (c : Cursor) : Option Chomping :=
    match c.peek? with
    | some '+' => some .keep
    | some '-' => some .strip
    | _ => none
  let increment? (c : Cursor) : Option Char := c.peek?.filter Char.isDigit
  let (first, c) := match chomping? c with
    | some chomping => (some chomping, c.skip 1)
    | none => (none, c)
  match increment? c with
  | none => some (first.getD .clip, none, c)
  | some digit =>
    if digit = '0' then none
    else
      let c := c.skip 1
      let depth := some (digitValue digit)
      match first, chomping? c with
      | some chomping, _ => some (chomping, depth, c)
      | none, some chomping => some (chomping, depth, c.skip 1)
      | none, none => some (.clip, depth, c)

/-- Goes over the empty lines of a block, and over the indentation of the next line. While the
indentation is not known (`none`) it takes all spaces, and gives the widest column reached. -/
def readBlockBreaks? (indent : Option Nat) (widest : Nat) (breaks : List Char) (c : Cursor) :
    Option (List Char × Nat × Cursor) :=
  let isLeft (column : Nat) : Bool := (indent.map (decide <| column < ·)).getD true
  match c with
  | ⟨[], _, _, column⟩ => some (breaks, max widest column, c)
  | ⟨b :: rest, index, line, column⟩ =>
    if b = ' ' ∧ isLeft column then
      readBlockBreaks? indent widest breaks ⟨rest, index + 1, line, column + 1⟩
    else if b = '\t' ∧ isLeft column then none
    else if isBreak b then
      readBlockBreaks? indent (max widest column) (breaks ++ [b]) ⟨rest, index + 1, line + 1, 0⟩
    else some (breaks, max widest column, c)
termination_by c.rest.length

/-- The lines of a block. `last` is the line end after the line before, `breaks` those of the empty
lines after it, and `blank` tells whether that line began with a blank. -/
def readBlockLines? (fuel : Nat) (literal : Bool) (indent : Nat) (text last breaks : List Char)
    (blank : Bool) (c : Cursor) : Option (List Char × List Char × List Char × Cursor) :=
  match fuel with
  | 0 => none
  | fuel + 1 =>
    if c.column ≠ indent ∨ c.rest = [] then some (text, last, breaks, c)
    else do
      let startsBlank := (c.peek?.map isBlank).getD false
      let joint :=
        if !literal ∧ last = ['\n'] ∧ !blank ∧ !startsBlank then
          if breaks.isEmpty then [' '] else []
        else last
      let line := c.run (!isBreak ·)
      let after := c.skip line.length
      let ending := after.rest.take 1
      let next := if ending.isEmpty then after else after.skipBreak
      let (nextBreaks, _, next) ← readBlockBreaks? (some indent) 0 [] next
      readBlockLines? fuel literal indent (text ++ joint ++ breaks ++ line) ending nextBreaks
        startsBlank next

/-- A block scalar, its indicator already taken, inside a block that is indented by `outer`. -/
def readBlock? (literal : Bool) (outer : Int) (c : Cursor) : Option (List Char × Cursor) := do
  let (chomping, depth, c) ← readBlockMarks? c
  let c ← c.finishLine?
  let given := depth.map fun n => (max outer 0).toNat + n
  let (breaks, widest, c) ← readBlockBreaks? given 0 [] c
  let indent := given.getD (max widest (max (outer + 1) 1).toNat)
  let (text, last, breaks, c) ←
    readBlockLines? (c.rest.length + 1) literal indent [] [] breaks false c
  some (match chomping with
    | .strip => text
    | .clip => text ++ last
    | .keep => text ++ last ++ breaks, c)

end StrategyDesk.Yaml
