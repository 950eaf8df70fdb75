import StrategyDesk.Json.Basic
import StrategyDesk.Number.Reading

/-!
# Reading JSON

A JSON text is one value with blanks around it and nothing after it.

## Main Definitions

* `Json.parse?` — the document of a text

## Design Notes

A number whose digits fit an unsigned word is read as its word times a power of ten and rounded
twice, once for the word and once for the product; digits beyond the word only move the power.
Values nested deeper than the limit are refused.
-/

namespace StrategyDesk.Json

/-- The blanks that JSON allows between tokens. -/
def isSpace (c : Char) : Bool := c == ' ' || c == '\n' || c == '\t' || c == '\r'

/-- The text from the next token on. -/
def skipSpace (text : List Char) : List Char := text.dropWhile isSpace

/-! ## Strings -/

/-- A piece of a quoted text: a character as it stands, or a unit given by its number. -/
inductive Piece where
  | char (c : Char)
  | unit (n : Nat)

/-- The text up to the closing quote, escapes still in place, and what follows the quote. -/
def quotedBody : List Char → Option (List Char × List Char)
  | [] => none
  | '"' :: rest => some ([], rest)
  | ['\\'] => none
  | '\\' :: c :: rest => (quotedBody rest).map fun (body, after) => ('\\' :: c :: body, after)
  | c :: rest =>
    if c.toNat < 0x20 then none else (quotedBody rest).map fun (body, after) => (c :: body, after)

/-- The value of four hexadecimal digits. -/
def hexUnit? (a b c d : Char) : Option Nat := digitsInBase? 16 [a, b, c, d]

/-- The pieces of a quoted body. -/
def pieces? : List Char → Option (List Piece)
  | [] => some []
  | '\\' :: 'u' :: a :: b :: c :: d :: rest => do
    let n ← hexUnit? a b c d
    some (.unit n :: (← pieces? rest))
  | '\\' :: c :: rest => do
    let plain ← match c with
      | '"' => some '"'
      | '\\' => some '\\'
      | '/' => some '/'
      | 'b' => some (Char.ofNat 0x08)
      | 'f' => some (Char.ofNat 0x0C)
      | 'n' => some '\n'
      | 'r' => some '\r'
      | 't' => some '\t'
      | _ => none
    some (.char plain :: (← pieces? rest))
  | '\\' :: [] => none
  | c :: rest => do some (.char c :: (← pieces? rest))

/-- Joins each high surrogate with the low one after it; a surrogate that stands alone is
refused. -/
def joinUnits? : List Piece → Option (List Char)
  | [] => some []
  | .char c :: rest => do some (c :: (← joinUnits? rest))
  | .unit high :: rest =>
    if 0xD800 ≤ high ∧ high < 0xDC00 then
      match rest with
      | .unit low :: rest =>
        if 0xDC00 ≤ low ∧ low < 0xE000 then do
          let c := Char.ofNat (0x10000 + (high - 0xD800) * 0x400 + (low - 0xDC00))
          some (c :: (← joinUnits? rest))
        else none
      | _ => none
    else if 0xDC00 ≤ high ∧ high < 0xE000 then none
    else do some (Char.ofNat high :: (← joinUnits? rest))

/-- A quoted text, its opening quote already taken: its value, if its units form characters, and
what follows the closing quote. -/
def readQuoted? (text : List Char) : Option (Option String × List Char) := do
  let (body, rest) ← quotedBody text
  let pieces ← pieces? body
  some ((joinUnits? pieces).map String.ofList, rest)

/-! ## Numbers -/

/-- Digits gathered into an unsigned word. -/
structure Gathered where
  word : Nat
  /-- Digits that no longer fit. -/
  dropped : Nat
  taken : Nat

/-- Gathers digits for as long as the word stays below `2 ^ 64`; from the first digit that does
not fit on, digits are only counted. -/
def gather (start : Gathered) : List Char → Gathered
  | [] => start
  | c :: rest =>
    let word := 10 * start.word + digitValue c
    if start.dropped = 0 ∧ word < wordSize 64 then
      gather ⟨word, 0, start.taken + 1⟩ rest
    else gather ⟨start.word, start.dropped + 1, start.taken⟩ rest

/-- `10 ^ n` as the nearest number. -/
def powerOfTen (n : Nat) : Binary64 := Binary64.ofNat (Nat.pow 10 n)

/-- `± word · 10 ^ exponent`, the word rounded first and the product or quotient after it. A power
below `10 ^ -308` is divided out in two steps. -/
def scaleWord (negative : Bool) (word : Nat) (exponent : Int) : Binary64 :=
  let x := Binary64.ofRatio negative word 1
  if word = 0 then x
  else if 308 < exponent then .infinite negative
  else if 0 ≤ exponent then x.mul (powerOfTen exponent.toNat)
  else if -308 ≤ exponent then x.div (powerOfTen (-exponent).toNat)
  else if -616 ≤ exponent then
    (x.div (powerOfTen 308)).div (powerOfTen (-exponent - 308).toNat)
  else Binary64.zero negative

/-- The digits of an exponent, its mark already taken, and what follows them. -/
def readExponent? (text : List Char) : Option (Int × List Char) :=
  let (negative, digits) := match text with
    | '+' :: rest => (false, rest)
    | '-' :: rest => (true, rest)
    | _ => (false, text)
  let run := digits.takeWhile Char.isDigit
  if run = [] then none
  else
    let size := digitsValue 0 run
    some (if negative then -(size : Int) else (size : Int), digits.dropWhile Char.isDigit)

/-- A number with its fraction and exponent, given its sign and the digits before them. -/
def readFraction? (negative : Bool) (whole : List Char) (text : List Char) :
    Option (JsonNumber × List Char) := do
  let gathered := gather ⟨0, 0, 0⟩ whole
  let (word, power, rest, pointed) ← match text with
    | '.' :: after =>
      let run := after.takeWhile Char.isDigit
      if run = [] then none
      else
        let more := gather ⟨gathered.word, 0, 0⟩ run
        some (more.word, (gathered.dropped : Int) - more.taken, after.dropWhile Char.isDigit, true)
    | _ => some (gathered.word, (gathered.dropped : Int), text, false)
  match rest with
  | 'e' :: after | 'E' :: after =>
    let (exponent, rest) ← readExponent? after
    some (.float (scaleWord negative word (power + exponent)), rest)
  | _ =>
    if pointed ∨ gathered.dropped ≠ 0 then some (.float (scaleWord negative word power), rest)
    else if !negative then some (.integer word, rest)
    else if word = 0 ∨ wordSize 63 < word then some (.float (Binary64.ofRatio true word 1), rest)
    else some (.integer (-(word : Int)), rest)

/-- A number, its sign already taken: no zero may lead the digits before the point. -/
def readNumber? (negative : Bool) (text : List Char) : Option (JsonNumber × List Char) :=
  match text with
  | '0' :: rest =>
    if (rest.takeWhile Char.isDigit).isEmpty then readFraction? negative ['0'] rest else none
  | _ =>
    let whole := text.takeWhile Char.isDigit
    if whole = [] then none else readFraction? negative whole (text.dropWhile Char.isDigit)

/-- The document of a number; one beyond the range has no value. -/
def ofNumber (n : JsonNumber) : Json := if n.IsCanonical then .number n else .unreadable

/-! ## Values -/

/-- Levels of nesting that a text may have. -/
def depthLimit : Nat := 127

mutual

/-- One value, blanks before it skipped. -/
def readValue? (fuel depth : Nat) (text : List Char) : Option (Json × List Char) :=
  match fuel with
  | 0 => none
  | fuel + 1 =>
    match skipSpace text with
    | 'n' :: 'u' :: 'l' :: 'l' :: rest => some (.null, rest)
    | 't' :: 'r' :: 'u' :: 'e' :: rest => some (.bool true, rest)
    | 'f' :: 'a' :: 'l' :: 's' :: 'e' :: rest => some (.bool false, rest)
    | '"' :: rest =>
      (readQuoted? rest).map fun (s, rest) => ((s.map Json.string).getD .unreadable, rest)
    | '-' :: rest => (readNumber? true rest).map fun (n, rest) => (ofNumber n, rest)
    | '[' :: rest =>
      match depth with
      | 0 => none
      | depth + 1 =>
        match skipSpace rest with
        | ']' :: rest => some (.array [], rest)
        | rest => (readItems? fuel depth rest).map fun (items, rest) => (.array items, rest)
    | '\x7b' :: rest =>
      match depth with
      | 0 => none
      | depth + 1 =>
        match skipSpace rest with
        | '\x7d' :: rest => some (.object [], rest)
        | rest => (readFields? fuel depth rest).map fun (fields, rest) => (.object fields, rest)
    | rest => (readNumber? false rest).map fun (n, rest) => (ofNumber n, rest)

/-- The items of an array up to its closing bracket. -/
def readItems? (fuel depth : Nat) (text : List Char) : Option (List Json × List Char) :=
  match fuel with
  | 0 => none
  | fuel + 1 => do
    let (item, rest) ← readValue? fuel depth text
    match skipSpace rest with
    | ']' :: rest => some ([item], rest)
    | ',' :: rest =>
      let (items, rest) ← readItems? fuel depth rest
      some (item :: items, rest)
    | _ => none

/-- The fields of an object up to its closing brace. -/
def readFields? (fuel depth : Nat) (text : List Char) :
    Option (List (String × Json) × List Char) :=
  match fuel with
  | 0 => none
  | fuel + 1 =>
    match skipSpace text with
    | '"' :: rest => do
      let (key, rest) ← readQuoted? rest
      let key ← key
      match skipSpace rest with
      | ':' :: rest =>
        let (value, rest) ← readValue? fuel depth rest
        match skipSpace rest with
        | '\x7d' :: rest => some ([(key, value)], rest)
        | ',' :: rest =>
          let (fields, rest) ← readFields? fuel depth rest
          some ((key, value) :: fields, rest)
        | _ => none
      | _ => none
    | _ => none

end

/-- The document of a text. Every step takes a character, so twice the length is fuel enough. -/
def parse? (text : String) : Option Json := do
  let chars := text.toList
  let (value, rest) ← readValue? (2 * chars.length + 2) depthLimit chars
  if (skipSpace rest).isEmpty then some value else none

end StrategyDesk.Json
