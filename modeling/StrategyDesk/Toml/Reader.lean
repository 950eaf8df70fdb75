import StrategyDesk.Json.Reader
import StrategyDesk.Number.Reading
import StrategyDesk.Toml.Basic

/-!
# Reading TOML

A document is a sequence of lines: headers, and keys with their values.

## Main Definitions

* `Toml.parse?` — the entries of a document

## Design Notes

Line ends are made uniform first, and a text with any other control character is refused, so that
no later step has to look for one.
-/

namespace StrategyDesk.Toml

/-! ## Blanks and comments -/

/-- A blank within a line. -/
def isGap (c : Char) : Bool := c == ' ' || c == '\t'

/-- The text after the blanks. -/
def skipGap (text : List Char) : List Char := text.dropWhile isGap

/-- The rest of a line that must hold no more than a comment, and the lines after it. -/
def endLine? (text : List Char) : Option (List Char) :=
  let rest := match skipGap text with
    | '#' :: comment => comment.dropWhile (· != '\n')
    | rest => rest
  match rest with
  | [] => some []
  | '\n' :: rest => some rest
  | _ => none

/-- The text after blanks, line ends and comments. -/
def skipFiller (inComment : Bool) : List Char → List Char
  | [] => []
  | c :: rest =>
    if c = '\n' then skipFiller false rest
    else if inComment then skipFiller true rest
    else if isGap c then skipFiller false rest
    else if c = '#' then skipFiller true rest
    else c :: rest

/-- Makes each pair of carriage return and line feed one line end. -/
def uniformLines : List Char → List Char
  | '\r' :: '\n' :: rest => '\n' :: uniformLines rest
  | c :: rest => c :: uniformLines rest
  | [] => []

/-- A character that a document may hold. -/
def isAllowed (c : Char) : Bool :=
  c == '\t' || c == '\n' || (0x20 ≤ c.toNat && c.toNat != 0x7F)

/-! ## Strings -/

/-- The body of a string up to its closing quote on the same line, escapes still in place, and
what follows. -/
def lineBody (escapes : Bool) (quote : Char) : List Char → Option (List Char × List Char)
  | [] => none
  | '\\' :: c :: rest =>
    if escapes then
      (lineBody escapes quote rest).map fun (body, after) => ('\\' :: c :: body, after)
    else if c = quote then some (['\\'], rest)
    else (lineBody escapes quote (c :: rest)).map fun (body, after) => ('\\' :: body, after)
  | c :: rest =>
    if c = quote then some ([], rest)
    else if c = '\n' then none
    else (lineBody escapes quote rest).map fun (body, after) => (c :: body, after)

/-- The body of a string of several lines up to its three closing quotes, of which the body keeps
up to two that stand before them. -/
def linesBody (escapes : Bool) (quote : Char) : List Char → Option (List Char × List Char)
  | [] => none
  | '\\' :: c :: rest =>
    if escapes then
      (linesBody escapes quote rest).map fun (body, after) => ('\\' :: c :: body, after)
    else (linesBody escapes quote (c :: rest)).map fun (body, after) => ('\\' :: body, after)
  | a :: b :: c :: rest =>
    if a = quote ∧ b = quote ∧ c = quote then
      let kept := (rest.take 2).takeWhile (· == quote)
      some (kept, rest.drop kept.length)
    else (linesBody escapes quote (b :: c :: rest)).map fun (body, after) => (a :: body, after)
  | _ :: _ => none

/-- The character of a number that is a scalar value. -/
def scalar? (n : Nat) : Option Char :=
  if h : n.isValidChar then some (Char.ofNatAux n h) else none

/-- Where in a body the next character stands. -/
inductive Margin where
  | inText
  /-- After a backslash that ends its line. -/
  | beforeEnd
  /-- On the lines after such a one, before their first character. -/
  | atStart
deriving DecidableEq

/-- The text of a body with escapes. A backslash at the end of a line joins the line to the first
character after it that is no blank. -/
def unescape? (margin : Margin) : List Char → Option (List Char)
  | [] => if margin = .beforeEnd then none else some []
  | '\\' :: 'u' :: a :: b :: c :: d :: rest =>
    if margin = .beforeEnd then none
    else do some ((← scalar? (← digitsInBase? 16 [a, b, c, d])) :: (← unescape? .inText rest))
  | '\\' :: 'U' :: a :: b :: c :: d :: e :: f :: g :: h :: rest =>
    if margin = .beforeEnd then none
    else do
      some ((← scalar? (← digitsInBase? 16 [a, b, c, d, e, f, g, h])) :: (← unescape? .inText rest))
  | '\\' :: c :: rest =>
    if margin = .beforeEnd then none
    else match c with
      | 'b' => do some (Char.ofNat 0x08 :: (← unescape? .inText rest))
      | 't' => do some ('\t' :: (← unescape? .inText rest))
      | 'n' => do some ('\n' :: (← unescape? .inText rest))
      | 'f' => do some (Char.ofNat 0x0C :: (← unescape? .inText rest))
      | 'r' => do some ('\r' :: (← unescape? .inText rest))
      | '"' => do some ('"' :: (← unescape? .inText rest))
      | '\\' => do some ('\\' :: (← unescape? .inText rest))
      | '\n' => unescape? .atStart rest
      | c => if isGap c then unescape? .beforeEnd rest else none
  | c :: rest =>
    match margin with
    | .inText => do some (c :: (← unescape? .inText rest))
    | .beforeEnd =>
      if c = '\n' then unescape? .atStart rest
      else if isGap c then unescape? .beforeEnd rest
      else none
    | .atStart =>
      if c = '\n' ∨ isGap c then unescape? .atStart rest
      else do some (c :: (← unescape? .inText rest))

/-- The text without a line end at its start. -/
def dropLineEnd : List Char → List Char
  | '\n' :: rest => rest
  | text => text

/-- A string on one line, its opening quote already taken. -/
def readLineString? (quote : Char) (text : List Char) : Option (String × List Char) := do
  let (body, rest) ← lineBody (quote = '"') quote text
  let chars ← if body.contains '\n' then none
    else if quote = '"' then unescape? .inText body
    else some body
  some (String.ofList chars, rest)

/-- A string of several lines, its opening quotes already taken; a line end right after them does
not count. -/
def readLinesString? (quote : Char) (text : List Char) : Option (String × List Char) := do
  let (body, rest) ← linesBody (quote = '"') quote (dropLineEnd text)
  let chars ← if quote = '"' then unescape? .inText body else some body
  some (String.ofList chars, rest)

/-! ## Keys -/

/-- A character of a key without quotes. -/
def isKeyChar (c : Char) : Bool := c.isAlphanum || c == '-' || c == '_'

/-- One part of a key. -/
def readKeyPart? : List Char → Option (String × List Char)
  | '"' :: rest => readLineString? '"' rest
  | '\'' :: rest => readLineString? '\'' rest
  | text =>
    let run := text.takeWhile isKeyChar
    if run.isEmpty then none else some (String.ofList run, text.dropWhile isKeyChar)

/-- The most parts a key may have, and the most levels of arrays and tables a value may have. -/
def depthLimit : Nat := 79

/-- A key as the parts before its last one, and the last one, with at most `limit` parts before. -/
def readKey? (limit : Nat) (text : List Char) : Option ((List String × String) × List Char) :=
  match limit with
  | 0 => none
  | limit + 1 => do
    let (part, rest) ← readKeyPart? (skipGap text)
    match skipGap rest with
    | '.' :: rest =>
      let ((path, last), rest) ← readKey? limit rest
      some ((part :: path, last), rest)
    | rest => some (([], part), rest)

/-! ## Dates and times -/

/-- A number of exactly so many digits within bounds. -/
def readField? (digits lowest highest : Nat) (text : List Char) : Option (Nat × List Char) :=
  let field := text.take digits
  if field.length = digits ∧ field.all Char.isDigit then
    let value := digitsValue 0 field
    if lowest ≤ value ∧ value ≤ highest then some (value, text.drop digits) else none
  else none

/-- The text after one character. -/
def after? (c : Char) : List Char → Option (List Char)
  | first :: rest => if first = c then some rest else none
  | [] => none

/-- Days of a month. -/
def daysOfMonth (year month : Nat) : Nat :=
  if month = 2 then
    if year % 4 = 0 ∧ (year % 100 ≠ 0 ∨ year % 400 = 0) then 29 else 28
  else if month = 4 ∨ month = 6 ∨ month = 9 ∨ month = 11 then 30 else 31

/-- The text after a date. -/
def afterDate? (text : List Char) : Option (List Char) := do
  let (year, rest) ← readField? 4 0 9999 text
  let (month, rest) ← readField? 2 1 12 (← after? '-' rest)
  let (day, rest) ← readField? 2 1 31 (← after? '-' rest)
  if day ≤ daysOfMonth year month then some rest else none

/-- The text after a time of day. -/
def afterTime? (text : List Char) : Option (List Char) := do
  let (_, rest) ← readField? 2 0 23 text
  let (_, rest) ← readField? 2 0 59 (← after? ':' rest)
  let (_, rest) ← readField? 2 0 60 (← after? ':' rest)
  match rest with
  | '.' :: fraction =>
    if (fraction.takeWhile Char.isDigit).isEmpty then some rest
    else some (fraction.dropWhile Char.isDigit)
  | rest => some rest

/-- The text after an offset from universal time. -/
def afterOffset? : List Char → Option (List Char)
  | c :: rest =>
    if c = 'Z' ∨ c = 'z' then some rest
    else if c = '+' ∨ c = '-' then do
      let (_, rest) ← readField? 2 0 23 rest
      let (_, rest) ← readField? 2 0 59 (← after? ':' rest)
      some rest
    else none
  | [] => none

/-- The text after a date, a time of day or both. -/
def afterMoment? (text : List Char) : Option (List Char) :=
  match afterDate? text with
  | none => afterTime? text
  | some rest =>
    match rest with
    | [] => some rest
    | c :: timed =>
      if c = 'T' ∨ c = 't' ∨ c = ' ' then
        match afterTime? timed with
        | none => some rest
        | some rest => some ((afterOffset? rest).getD rest)
      else some rest

/-! ## Numbers -/

/-- Digits, with single underscores between them. -/
def digitRun (isDigit : Char → Bool) : List Char → List Char × List Char
  | '_' :: c :: rest =>
    if isDigit c then
      let (run, rest) := digitRun isDigit rest
      (c :: run, rest)
    else ([], '_' :: c :: rest)
  | c :: rest =>
    if isDigit c then
      let (run, rest) := digitRun isDigit rest
      (c :: run, rest)
    else ([], c :: rest)
  | [] => ([], [])

/-- Digits of which the first is no underscore, and what follows them. -/
def readDigits? (isDigit : Char → Bool) : List Char → Option (List Char × List Char)
  | '_' :: _ => none
  | text =>
    match digitRun isDigit text with
    | ([], _) => none
    | found => some found

/-- Decimal digits without a leading zero, or a zero alone. -/
def readWhole? : List Char → Option (List Char × List Char)
  | '0' :: rest => some (['0'], rest)
  | text => readDigits? Char.isDigit text

/-- A sign, and the text after it. -/
def readSign : List Char → List Char × List Char
  | '+' :: rest => (['+'], rest)
  | '-' :: rest => (['-'], rest)
  | text => ([], text)

/-- An exponent with its mark. -/
def readPower? : List Char → Option (List Char × List Char)
  | mark :: rest =>
    if mark = 'e' ∨ mark = 'E' then do
      let (sign, rest) := readSign rest
      let (digits, rest) ← readDigits? Char.isDigit rest
      some ('e' :: sign ++ digits, rest)
    else none
  | [] => none

/-- A decimal number: digits with a fraction, an exponent or both. -/
def readDecimal? (text : List Char) : Option (List Char × List Char) := do
  let (sign, rest) := readSign text
  let (whole, rest) ← readWhole? rest
  match rest with
  | '.' :: after =>
    let (fraction, rest) ← readDigits? Char.isDigit after
    let (power, rest) := (readPower? rest).getD ([], rest)
    some (sign ++ whole ++ '.' :: fraction ++ power, rest)
  | rest =>
    let (power, rest) ← readPower? rest
    some (sign ++ whole ++ power, rest)

/-- A whole number within a signed word of 64 bits. -/
def ofWhole? (n : Int) : Option Toml :=
  if -(wordSize 63 : Int) ≤ n ∧ n < wordSize 63 then some (.integer n) else none

/-- A whole number in another base, the mark of the base already taken. -/
def readBased? (base : Nat) (text : List Char) : Option (Toml × List Char) := do
  let (digits, rest) ← readDigits? (fun c => (digitInBase? base c).isSome) text
  let value : Nat ← digitsInBase? base digits
  some (← ofWhole? value, rest)

/-- A whole number. -/
def readInteger? (text : List Char) : Option (Toml × List Char) :=
  match text with
  | '0' :: 'x' :: rest => readBased? 16 rest
  | '0' :: 'o' :: rest => readBased? 8 rest
  | '0' :: 'b' :: rest => readBased? 2 rest
  | _ => do
    let (sign, rest) := readSign text
    let (digits, rest) ← readWhole? rest
    let size : Int := digitsValue 0 digits
    some (← ofWhole? (if sign = ['-'] then -size else size), rest)

/-- One of the words for numbers that are not finite, after its sign. -/
def readWord? (text : List Char) : Option (Toml × List Char) :=
  let (sign, rest) := readSign text
  match rest with
  | 'i' :: 'n' :: 'f' :: rest => some (.decimal (.infinite (sign = ['-'])), rest)
  | 'n' :: 'a' :: 'n' :: rest => some (.decimal .nan, rest)
  | _ => none

/-- A moment or a number. A decimal number beyond the range on the positive side is refused. -/
def readPlain? (text : List Char) : Option (Toml × List Char) :=
  match afterMoment? text with
  | some rest => some (.moment (text.take (text.length - rest.length)), rest)
  | none =>
    match readDecimal? text with
    | some (digits, rest) => do
      let x ← Binary64.parse? digits
      if x = .infinite false then none else some (.decimal x, rest)
    | none => (readWord? text).orElse fun _ => readInteger? text

/-! ## Values -/

mutual

/-- One value, with at most `depth` levels of arrays and tables in it. -/
def readValue? (fuel depth : Nat) (text : List Char) : Option (Toml × List Char) :=
  match fuel with
  | 0 => none
  | fuel + 1 =>
    match text with
    | '"' :: '"' :: '"' :: rest =>
      (readLinesString? '"' rest).map fun (s, rest) => (.string s, rest)
    | '"' :: rest => (readLineString? '"' rest).map fun (s, rest) => (.string s, rest)
    | '\'' :: '\'' :: '\'' :: rest =>
      (readLinesString? '\'' rest).map fun (s, rest) => (.string s, rest)
    | '\'' :: rest => (readLineString? '\'' rest).map fun (s, rest) => (.string s, rest)
    | 't' :: 'r' :: 'u' :: 'e' :: rest => some (.boolean true, rest)
    | 'f' :: 'a' :: 'l' :: 's' :: 'e' :: rest => some (.boolean false, rest)
    | '[' :: rest =>
      match depth with
      | 0 => none
      | depth + 1 => (readItems? fuel depth rest).map fun (items, rest) => (.array items, rest)
    | '\x7b' :: rest =>
      match depth with
      | 0 => none
      | depth + 1 =>
        match skipGap rest with
        | '\x7d' :: rest => some (.table .inline [], rest)
        | rest => (readFields? fuel depth [] rest).map fun (entries, rest) =>
            (.table .inline entries, rest)
    | _ => readPlain? text

/-- The items of an array up to its closing bracket; a comma may stand after the last one. -/
def readItems? (fuel depth : Nat) (text : List Char) : Option (List Toml × List Char) :=
  match fuel with
  | 0 => none
  | fuel + 1 =>
    match skipFiller false text with
    | ']' :: rest => some ([], rest)
    | text => do
      let (item, rest) ← readValue? fuel depth text
      match skipFiller false rest with
      | ']' :: rest => some ([item], rest)
      | ',' :: rest =>
        let (items, rest) ← readItems? fuel depth rest
        some (item :: items, rest)
      | _ => none

/-- The fields of an inline table up to its closing brace, added to those before them. -/
def readFields? (fuel depth : Nat) (entries : Entries) (text : List Char) :
    Option (Entries × List Char) :=
  match fuel with
  | 0 => none
  | fuel + 1 => do
    let ((path, key), rest) ← readKey? depthLimit text
    let (value, rest) ← readValue? fuel depth (skipGap (← after? '=' rest))
    let entries ← entries.define? path key value .inline
    match skipGap rest with
    | '\x7d' :: rest => some (entries, rest)
    | ',' :: rest => readFields? fuel depth entries rest
    | _ => none

end

/-! ## Lines -/

/-- A document that is being read: what it holds, and the path of the table that is open. -/
structure Draft where
  entries : Entries := []
  path : List String := []

namespace Draft

/-- Defines a key in the open table. -/
def define? (draft : Draft) (path : List String) (key : String) (value : Toml) : Option Draft := do
  let entries ← draft.entries.alter? false
    (fun origin inner => inner.define? path key value origin) draft.path .header
  some { draft with entries := entries }

/-- Opens a table. -/
def openTable? (draft : Draft) (path : List String) (key : String) : Option Draft := do
  some { entries := ← draft.entries.openTable? path key, path := path ++ [key] }

/-- Opens an element of an array of tables. -/
def openElement? (draft : Draft) (path : List String) (key : String) : Option Draft := do
  some { entries := ← draft.entries.openElement? path key, path := path ++ [key] }

end Draft

/-- One line, and the lines after it. -/
def readLine? (draft : Draft) (text : List Char) : Option (Draft × List Char) :=
  match text with
  | '[' :: '[' :: rest => do
    let ((path, key), rest) ← readKey? depthLimit rest
    let rest ← endLine? (← after? ']' (← after? ']' rest))
    some (← draft.openElement? path key, rest)
  | '[' :: rest => do
    let ((path, key), rest) ← readKey? depthLimit rest
    let rest ← endLine? (← after? ']' rest)
    some (← draft.openTable? path key, rest)
  | _ => do
    let ((path, key), rest) ← readKey? depthLimit text
    let valueText := skipGap (← after? '=' rest)
    let (value, rest) ← readValue? (2 * valueText.length + 2) depthLimit valueText
    some (← draft.define? path key value, ← endLine? rest)

/-- All lines. -/
def readLines? (fuel : Nat) (draft : Draft) (text : List Char) : Option Entries :=
  match fuel with
  | 0 => none
  | fuel + 1 =>
    match skipFiller false text with
    | [] => some draft.entries
    | text => do
      let (draft, rest) ← readLine? draft text
      readLines? fuel draft rest

/-- The entries of a document; a byte order mark before it is skipped. -/
def parse? (text : String) : Option Entries :=
  let chars := uniformLines (match text.toList with
    | '\uFEFF' :: rest => rest
    | chars => chars)
  if chars.all isAllowed then readLines? (chars.length + 1) {} chars else none

end StrategyDesk.Toml
