import StrategyDesk.Json.Basic
import StrategyDesk.Number.Shortest

/-!
# Writing JSON

## Main Definitions

* `Json.compact` — one line, no blanks
* `Json.pretty` — one item or field a line, two blanks a level
-/

namespace StrategyDesk

/-- Numbers of documents: written out in positions from `0.00001` to below `10 ^ 16`, and always
with a point or an exponent. -/
def jsonFloatLayout : FloatLayout := ⟨some (-5, 15), true⟩

/-- The text of a number. -/
def JsonNumber.text : JsonNumber → String
  | .integer n => toString n
  | .float x => x.format jsonFloatLayout

namespace Json

/-- A lower-case hexadecimal digit. -/
def hexDigit (n : Nat) : Char := Nat.digitChar (n % 16)

/-- One character inside a quoted text. -/
def quoteChar (c : Char) : List Char :=
  if c = '"' then ['\\', '"']
  else if c = '\\' then ['\\', '\\']
  else if c = '\n' then ['\\', 'n']
  else if c = '\r' then ['\\', 'r']
  else if c = '\t' then ['\\', 't']
  else if c.toNat = 0x08 then ['\\', 'b']
  else if c.toNat = 0x0C then ['\\', 'f']
  else if c.toNat < 0x20 then ['\\', 'u', '0', '0', hexDigit (c.toNat / 16), hexDigit c.toNat]
  else [c]

/-- The text between quotes, with quotes, backslashes and control characters escaped. -/
def quote (text : String) : String :=
  String.ofList ('"' :: text.toList.flatMap quoteChar ++ ['"'])

mutual

/-- The document on one line without blanks. -/
def compact : Json → String
  | .unreadable | .null => "null"
  | .bool b => if b then "true" else "false"
  | .number n => n.text
  | .string s => quote s
  | .array items => "[" ++ compactItems items ++ "]"
  | .object fields => "\x7b" ++ compactFields fields ++ "\x7d"

/-- Items with commas between them. -/
def compactItems : List Json → String
  | [] => ""
  | [item] => item.compact
  | item :: rest => item.compact ++ "," ++ compactItems rest

/-- Fields with commas between them. -/
def compactFields : List (String × Json) → String
  | [] => ""
  | [(key, value)] => quote key ++ ":" ++ value.compact
  | (key, value) :: rest => quote key ++ ":" ++ value.compact ++ "," ++ compactFields rest

end

/-- The start of a line at a level. -/
def newLine (level : Nat) : String :=
  String.ofList ('\n' :: List.replicate (2 * level) ' ')

mutual

/-- The document from a level on; an empty array or object stays on its line. -/
def prettyAt (level : Nat) : Json → String
  | .unreadable | .null => "null"
  | .bool b => if b then "true" else "false"
  | .number n => n.text
  | .string s => quote s
  | .array [] => "[]"
  | .array items => "[" ++ prettyItems (level + 1) items ++ newLine level ++ "]"
  | .object [] => "\x7b\x7d"
  | .object fields => "\x7b" ++ prettyFields (level + 1) fields ++ newLine level ++ "\x7d"

/-- Items on lines of their own. -/
def prettyItems (level : Nat) : List Json → String
  | [] => ""
  | [item] => newLine level ++ item.prettyAt level
  | item :: rest => newLine level ++ item.prettyAt level ++ "," ++ prettyItems level rest

/-- Fields on lines of their own. -/
def prettyFields (level : Nat) : List (String × Json) → String
  | [] => ""
  | [(key, value)] => newLine level ++ quote key ++ ": " ++ value.prettyAt level
  | (key, value) :: rest =>
    newLine level ++ quote key ++ ": " ++ value.prettyAt level ++ "," ++ prettyFields level rest

end

/-- The document with one item or field a line, two blanks a level. -/
def pretty (j : Json) : String := j.prettyAt 0

end Json

end StrategyDesk
