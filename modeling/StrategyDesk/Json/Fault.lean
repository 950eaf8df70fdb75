import StrategyDesk.Json.Printer

/-!
# Faults of a JSON text

Why a text or a document has not the form that was expected.

## Main Definitions

* `JsonFault`, `JsonFault.text`
* `TextPlace` — a place in a text
-/

namespace StrategyDesk

/-- A place in a text: its line, and the bytes of that line before it. -/
structure TextPlace where
  line : Nat
  column : Nat
deriving DecidableEq, Repr

/-- The place after a text. -/
def TextPlace.after (text : List Char) : TextPlace where
  line := text.count '\n' + 1
  column := (String.ofList (text.reverse.takeWhile (· != '\n'))).utf8ByteSize

def TextPlace.text (place : TextPlace) : String := s!"line {place.line} column {place.column}"

/-- Why a text or a document has not the form that was expected. -/
inductive JsonFault where
  | malformed
  /-- Something stands where a text is expected. -/
  | notText (found : Json) (place : Option TextPlace)
  | missingField (name : String) (place : TextPlace)
  /-- The text ends where a value is expected. -/
  | noValue (place : TextPlace)
deriving DecidableEq

namespace JsonFault

/-- What a value is called. -/
def describe : Json → String
  | .null | .unreadable => "null"
  | .bool b => "boolean \x60" ++ (if b then "true" else "false") ++ "\x60"
  | .number (.integer n) => s!"integer \x60{n}\x60"
  | .number (.float x) => "floating point \x60" ++ (JsonNumber.float x).text ++ "\x60"
  | .string s => "string \"" ++ s ++ "\""
  | .array _ => "sequence"
  | .object _ => "map"

def text : JsonFault → String
  | malformed => "the text has not the expected form"
  | notText found place =>
    s!"invalid type: {describe found}, expected a string"
      ++ ((place.map fun p => " at " ++ p.text).getD "")
  | missingField name place => s!"missing field \x60{name}\x60 at {place.text}"
  | noValue place => s!"EOF while parsing a value at {place.text}"

end JsonFault

end StrategyDesk
