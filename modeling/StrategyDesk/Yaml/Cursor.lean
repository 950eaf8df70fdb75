/-!
# Reading positions

The characters of a YAML text, and a position that moves over them.

## Main Definitions

* `isYamlChar`, `uniformBreaks` — which characters a text may hold, and its line ends made uniform
* `Cursor` — a position and the text after it
* `Gap`, `Cursor.readGap?` — the blanks and line ends inside a scalar, and the text they stand for
-/

namespace StrategyDesk.Yaml

/-- A character that a text may hold. -/
def isYamlChar (c : Char) : Bool :=
  let n := c.toNat
  n == 0x09 || n == 0x0A || n == 0x0D || (0x20 ≤ n && n ≤ 0x7E) || n == 0x85
    || (0xA0 ≤ n && n ≤ 0xFFFD) || 0x10000 ≤ n

/-- Makes all line ends but the two separators of Unicode line feeds. -/
def uniformBreaks : List Char → List Char
  | '\r' :: '\n' :: rest => '\n' :: uniformBreaks rest
  | c :: rest => (if c = '\r' ∨ c.toNat = 0x85 then '\n' else c) :: uniformBreaks rest
  | [] => []

/-- A line end, once line ends are uniform. -/
def isBreak (c : Char) : Bool := c == '\n' || c.toNat == 0x2028 || c.toNat == 0x2029

def isBlank (c : Char) : Bool := c == ' ' || c == '\t'

/-- The text is at an end, or goes on with a blank or a line end. -/
def atBlankOrEnd : List Char → Bool
  | [] => true
  | c :: _ => isBlank c || isBreak c

/-- A position in a text. -/
structure Cursor where
  rest : List Char
  index : Nat
  line : Nat
  column : Nat
deriving Repr

namespace Cursor

def start (text : List Char) : Cursor := ⟨text, 0, 0, 0⟩

/-- The next character. -/
def peek? (c : Cursor) : Option Char := c.rest.head?

/-- Goes over characters of one line. -/
def skip (c : Cursor) (n : Nat) : Cursor := ⟨c.rest.drop n, c.index + n, c.line, c.column + n⟩

/-- Goes over a line end. -/
def skipBreak (c : Cursor) : Cursor := ⟨c.rest.drop 1, c.index + 1, c.line + 1, 0⟩

/-- Goes over characters of one line for as long as they meet a condition. -/
def skipWhile (c : Cursor) (p : Char → Bool) : Cursor := c.skip (c.rest.takeWhile p).length

/-- The next characters that meet a condition. -/
def run (c : Cursor) (p : Char → Bool) : List Char := c.rest.takeWhile p

/-- Three times a character at the start of a line, and nothing right after them. -/
def isAtMark (c : Cursor) (mark : Char) : Bool :=
  c.column == 0 && c.rest.take 3 == [mark, mark, mark] && atBlankOrEnd (c.rest.drop 3)

/-- A document starts or ends here. -/
def isAtDocumentMark (c : Cursor) : Bool := c.isAtMark '-' || c.isAtMark '.'

/-- Goes over blanks, a comment and a line end; nothing else may stand before that. -/
def finishLine? (c : Cursor) : Option Cursor :=
  let c := c.skipWhile isBlank
  let c := if c.peek? = some '#' then c.skipWhile (!isBreak ·) else c
  match c.rest with
  | [] => some c
  | b :: _ => if isBreak b then some c.skipBreak else none

end Cursor

/-- The blanks and line ends between two pieces of a scalar. -/
structure Gap where
  /-- A line end was met. -/
  isBroken : Bool
  /-- Blanks before the first line end. -/
  blanks : List Char
  /-- The first line end, unless it was escaped. -/
  first : List Char
  /-- The line ends after the first one. -/
  more : List Char

namespace Gap

def empty : Gap := ⟨false, [], [], []⟩

/-- What a gap stands for: a single line feed is folded to a space, and a line feed before others
is dropped. -/
def text (gap : Gap) : List Char :=
  if !gap.isBroken then gap.blanks
  else if gap.first = ['\n'] then if gap.more.isEmpty then [' '] else gap.more
  else gap.first ++ gap.more

/-- The gap with one more line end. -/
def addBreak (gap : Gap) (b : Char) : Gap :=
  if gap.isBroken then { gap with more := gap.more ++ [b] }
  else ⟨true, [], [b], []⟩

end Gap

/-- Reads the blanks and line ends of a scalar. At the start of a line no tab may stand left of
`margin`. -/
def Cursor.readGap? (margin : Int) (gap : Gap) (c : Cursor) : Option (Gap × Cursor) :=
  match c with
  | ⟨[], _, _, _⟩ => some (gap, c)
  | ⟨b :: rest, index, line, column⟩ =>
    if isBlank b then
      if gap.isBroken then
        if b = '\t' ∧ (column : Int) < margin then none
        else readGap? margin gap ⟨rest, index + 1, line, column + 1⟩
      else
        readGap? margin { gap with blanks := gap.blanks ++ [b] } ⟨rest, index + 1, line, column + 1⟩
    else if isBreak b then readGap? margin (gap.addBreak b) ⟨rest, index + 1, line + 1, 0⟩
    else some (gap, c)
termination_by c.rest.length

end StrategyDesk.Yaml
