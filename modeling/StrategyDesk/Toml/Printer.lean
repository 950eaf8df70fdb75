import StrategyDesk.Number.Shortest
import StrategyDesk.Toml.Basic

/-!
# Writing TOML

A document is written with its plain values first and one section for each of its tables after
them; deeper tables stand between braces.

## Main Definitions

* `Toml.quote` — a string in the quoting that needs the fewest escapes
* `Toml.print` — the text of a document
-/

namespace StrategyDesk.Toml

/-! ## Strings -/

/-- The longest run of one character. -/
def longestRun (c : Char) (text : List Char) : Nat :=
  (text.foldl (fun (longest, run) next =>
    let run := if next = c then run + 1 else 0
    (max longest run, run)) (0, 0)).1

/-- A control character that no string holds as it stands. -/
def isControl (c : Char) : Bool := (c.toNat < 0x20 && c != '\t' && c != '\n') || c.toNat == 0x7F

/-- Four hexadecimal digits. -/
def hexFour (n : Nat) : List Char :=
  let digits := (Nat.toDigits 16 n).map Char.toUpper
  List.replicate (4 - digits.length) '0' ++ digits

/-- The characters of a string with escapes. A quote is escaped when `quotes` of them stand before
it, and a line end unless the string may have several lines. -/
def escapeFrom (lines : Bool) (maxQuotes quotes : Nat) : List Char → List Char
  | [] => []
  | '"' :: rest =>
    if quotes < maxQuotes then '"' :: escapeFrom lines maxQuotes (quotes + 1) rest
    else '\\' :: '"' :: escapeFrom lines maxQuotes 0 rest
  | c :: rest =>
    let written :=
      if c = '\n' then if lines then ['\n'] else ['\\', 'n']
      else if c = '\t' then ['\\', 't']
      else if c = '\r' then ['\\', 'r']
      else if c = '\\' then ['\\', '\\']
      else if c.toNat = 0x08 then ['\\', 'b']
      else if c.toNat = 0x0C then ['\\', 'f']
      else if isControl c then '\\' :: 'u' :: hexFour c.toNat
      else [c]
    written ++ escapeFrom lines maxQuotes 0 rest

/-- A string between marks; a string with several lines starts on a line of its own. -/
def between (mark : String) (body : List Char) : String :=
  let start := if mark.length = 3 ∧ body.contains '\n' then "\n" else ""
  mark ++ start ++ String.ofList body ++ mark

/-- A string with its quotes: plain ones if nothing in it needs an escape, else single ones, else
three of either kind, and escapes only where none of these can hold it. -/
def quote (s : String) : String :=
  let chars := s.toList
  let control := chars.any isControl
  let backslash := chars.contains '\\'
  let newline := chars.contains '\n'
  let single := longestRun '\'' chars
  let double := longestRun '"' chars
  if !control ∧ !backslash ∧ !newline ∧ double = 0 then
    between "\"" (escapeFrom false 0 0 chars)
  else if !control ∧ !newline ∧ single = 0 then between "'" chars
  else if !control ∧ !backslash ∧ double ≤ 2 then between "\"\"\"" (escapeFrom true 2 0 chars)
  else if !control ∧ single ≤ 2 then between "'''" chars
  else if newline then between "\"\"\"" (escapeFrom true 2 0 chars)
  else between "\"" (escapeFrom false 0 0 chars)

/-! ## Values and documents -/

/-- A character of a key that needs no quotes. -/
def isBareKeyChar (c : Char) : Bool := c.isAlphanum || c == '-' || c == '_'

/-- A key, quoted unless it needs no quotes. -/
def keyText (key : String) : String :=
  if key.toList ≠ [] ∧ key.toList.all isBareKeyChar then key else quote key

/-- Numbers of documents: in positions, whole ones with a point. -/
def decimalText (x : Binary64) : String :=
  if x.isNaN then "nan" else x.format ⟨none, true⟩

mutual

/-- A value on one line. -/
def valueText : Toml → String
  | string s => quote s
  | integer n => toString n
  | decimal x => decimalText x
  | boolean b => if b then "true" else "false"
  | moment written => String.ofList written
  | array items => "[" ++ ", ".intercalate (itemTexts items) ++ "]"
  | table _ entries => "\x7b " ++ ", ".intercalate (entryTexts entries) ++ " \x7d"
  | tables elements => "[" ++ ", ".intercalate (itemTexts elements) ++ "]"

def itemTexts : List Toml → List String
  | [] => []
  | item :: rest => valueText item :: itemTexts rest

def entryTexts : List (String × Toml) → List String
  | [] => []
  | (key, value) :: rest => s!"{keyText key} = {valueText value}" :: entryTexts rest

end

/-- The entries that are tables, with what they hold. -/
def sections (entries : Entries) : List (String × Entries) :=
  entries.filterMap fun (key, value) =>
    match value with
    | table _ inner => some (key, inner)
    | _ => none

/-- The entries that are no tables. -/
def plainEntries (entries : Entries) : Entries :=
  entries.filter fun (_, value) =>
    match value with
    | table .. => false
    | _ => true

/-- Lines with their ends. -/
def asLines (lines : List String) : String := String.join (lines.map (· ++ "\n"))

/-- The text of a document: its plain values, and its sections with a blank line before each. -/
def print (entries : Entries) : String :=
  let plain := entryTexts (plainEntries entries)
  let blocks := (sections entries).map fun (key, inner) => s!"[{keyText key}]" :: entryTexts inner
  let blocks := if plain.isEmpty then blocks else plain :: blocks
  "\n".intercalate (blocks.map asLines)

end StrategyDesk.Toml
