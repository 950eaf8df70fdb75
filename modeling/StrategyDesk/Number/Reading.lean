import StrategyDesk.Number.Binary64

/-!
# Reading decimal numbers

The texts of numbers that people type: signed whole numbers within a word, and decimal numbers
with an optional point and exponent.

## Main Definitions

* `Binary64.ofDecimal` — the number nearest to `± digits · 10 ^ exponent`
* `Binary64.parse?` — a decimal number, or one of the words for infinity and not-a-number
* `parseWord?` — an unsigned whole number below a bound
* `digitsInBase?` — whole numbers in other bases
-/

namespace StrategyDesk

/-- The value of an ASCII digit. -/
def digitValue (c : Char) : Nat := c.toNat - '0'.toNat

/-- The value of a digit; letters in either case go on above nine. -/
def hexDigitValue? (c : Char) : Option Nat :=
  if c.isDigit then some (digitValue c)
  else if 'a' ≤ c ∧ c ≤ 'f' then some (c.toNat - 'a'.toNat + 10)
  else if 'A' ≤ c ∧ c ≤ 'F' then some (c.toNat - 'A'.toNat + 10)
  else none

/-- The value of a digit in a base of at most sixteen. -/
def digitInBase? (base : Nat) (c : Char) : Option Nat := (hexDigitValue? c).filter (· < base)

/-- The value of digits in a base of at most sixteen, to which all must belong. -/
def digitsInBase? (base : Nat) (digits : List Char) : Option Nat :=
  digits.foldlM (fun n c => (digitInBase? base c).map (base * n + ·)) 0

/-- The value of a run of decimal digits, added to what stands before it. -/
def digitsValue (start : Nat) (digits : List Char) : Nat :=
  digits.foldl (fun n c => 10 * n + digitValue c) start

/-- An unsigned whole number below `bound`: an optional plus sign and at least one digit. -/
def parseWord? (bound : Nat) (text : List Char) : Option Nat :=
  let digits := match text with
    | '+' :: rest => rest
    | _ => text
  if digits ≠ [] ∧ digits.all Char.isDigit then
    let value := digitsValue 0 digits
    if value < bound then some value else none
  else none

namespace Binary64

/-- The number nearest to `± digits · 10 ^ exponent`. The first two branches decide numbers far
outside the range without computing the power. -/
def ofDecimal (negative : Bool) (digits : Nat) (exponent : Int) : Binary64 :=
  if digits = 0 then zero negative
  else if 400 < exponent then infinite negative
  else if exponent + (digits.log2 : Int) < -1200 then zero negative
  else ofRatio negative (digits * Nat.pow 10 exponent.toNat) (Nat.pow 10 (-exponent).toNat)

/-- An exponent after its mark: a sign and at least one digit, to the end of the text. -/
def parseExponent? : List Char → Option Int
  | '-' :: digits => if digits ≠ [] ∧ digits.all Char.isDigit then
      some (-(digitsValue 0 digits : Nat)) else none
  | '+' :: digits => if digits ≠ [] ∧ digits.all Char.isDigit then
      some (digitsValue 0 digits : Nat) else none
  | digits => if digits ≠ [] ∧ digits.all Char.isDigit then
      some (digitsValue 0 digits : Nat) else none

/-- Digits with an optional point, at least one digit in all, and an optional exponent. -/
def parseMagnitude? (negative : Bool) (text : List Char) : Option Binary64 := do
  let whole := text.takeWhile Char.isDigit
  let (fraction, rest) := match text.dropWhile Char.isDigit with
    | '.' :: after => (after.takeWhile Char.isDigit, after.dropWhile Char.isDigit)
    | rest => ([], rest)
  if whole = [] ∧ fraction = [] then none
  else
    let exponent ← match rest with
      | [] => some 0
      | mark :: after => if mark = 'e' ∨ mark = 'E' then parseExponent? after else none
    some (ofDecimal negative (digitsValue 0 (whole ++ fraction)) (exponent - fraction.length))

/-- A number as people type it: an optional sign, then decimal digits or one of the words
`inf`, `infinity` and `nan` in any case. -/
def parse? (text : List Char) : Option Binary64 :=
  let (negative, body) := match text with
    | '-' :: rest => (true, rest)
    | '+' :: rest => (false, rest)
    | _ => (false, text)
  let word := String.ofList (body.map Char.toLower)
  if word = "inf" ∨ word = "infinity" then some (infinite negative)
  else if word = "nan" then some nan
  else parseMagnitude? negative body

end Binary64

end StrategyDesk
