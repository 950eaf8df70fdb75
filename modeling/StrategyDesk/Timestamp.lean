import StrategyDesk.Json.Wire
import StrategyDesk.Text.Blank

/-!
# Timestamps

Moments in universal time with nanoseconds, and their RFC 3339 texts.

## Main Definitions

* `Timestamp` — a moment
* `Timestamp.parse?` — reads a date, a time of day and an offset, with blanks between the parts
  and numbers of fewer digits allowed
* `Timestamp.text` — universal time, with as many fraction digits in threes as needed
-/

namespace StrategyDesk

/-- A moment: seconds from 1970-01-01T00:00:00Z and nanoseconds above them. A leap second has a
thousand million nanoseconds or more. -/
structure Timestamp where
  seconds : Int
  nanos : Nat
deriving DecidableEq, Repr

namespace Timestamp

/-- The nanoseconds of a second. -/
def nanosPerSecond : Nat := 1000000000

/-! ## The calendar -/

/-- Days from 1970-01-01 to a date of the Gregorian calendar. -/
def daysFromDate (year : Int) (month day : Nat) : Int :=
  let year := if month ≤ 2 then year - 1 else year
  let era := year.fdiv 400
  let yearOfEra := year - era * 400
  let dayOfYear : Int := (153 * ((month : Int) + (if month > 2 then -3 else 9)) + 2) / 5 + day - 1
  let dayOfEra := yearOfEra * 365 + yearOfEra / 4 - yearOfEra / 100 + dayOfYear
  era * 146097 + dayOfEra - 719468

/-- The year, month and day that many days after 1970-01-01. -/
def dateFromDays (days : Int) : Int × Nat × Nat :=
  let z := days + 719468
  let era := z.fdiv 146097
  let dayOfEra := z - era * 146097
  let yearOfEra :=
    (dayOfEra - dayOfEra / 1460 + dayOfEra / 36524 - dayOfEra / 146096) / 365
  let dayOfYear := dayOfEra - (365 * yearOfEra + yearOfEra / 4 - yearOfEra / 100)
  let shifted := (5 * dayOfYear + 2) / 153
  let day := dayOfYear - (153 * shifted + 2) / 5 + 1
  let month := if shifted < 10 then shifted + 3 else shifted - 9
  let year := yearOfEra + era * 400 + (if month ≤ 2 then 1 else 0)
  (year, month.toNat, day.toNat)

/-- The years of the calendar. -/
def isYear (year : Int) : Bool := -262143 ≤ year && year ≤ 262142

/-- The date exists. -/
def isDate (year : Int) (month day : Nat) : Bool :=
  1 ≤ month && month ≤ 12 && 1 ≤ day
    && dateFromDays (daysFromDate year month day) == (year, month, day)

/-! ## Reading -/

/-- The text from the next character that is not blank. -/
def skipBlanks (text : List Char) : List Char := text.dropWhile isBlank

/-- A number of one to `width` digits after blanks. -/
def readDigits? (width : Nat) (text : List Char) : Option (Nat × List Char) :=
  let text := skipBlanks text
  let run := (text.take width).takeWhile Char.isDigit
  if run = [] then none else some (digitsValue 0 run, text.drop run.length)

/-- A year: up to four digits, or a sign and any number of them. -/
def readYear? (text : List Char) : Option (Int × List Char) :=
  match skipBlanks text with
  | '-' :: rest =>
    match rest with
    | c :: _ => if c.isDigit then
        (readDigits? rest.length rest).map fun (n, rest) => (-(n : Int), rest) else none
    | [] => none
  | '+' :: rest =>
    match rest with
    | c :: _ => if c.isDigit then
        (readDigits? rest.length rest).map fun (n, rest) => ((n : Int), rest) else none
    | [] => none
  | text => (readDigits? 4 text).map fun (n, rest) => ((n : Int), rest)

/-- A mark after blanks. -/
def readMark? (mark : Char) (text : List Char) : Option (List Char) :=
  match skipBlanks text with
  | c :: rest => if c = mark then some rest else none
  | [] => none

/-- The mark between a date and a time of day, a `T` or a blank. -/
def readTimeMark? : List Char → Option (List Char)
  | 'T' :: rest | 't' :: rest | ' ' :: rest => some rest
  | _ => none

/-- Nanoseconds of the digits after a point; digits beyond the ninth are dropped. -/
def readFraction? : List Char → Option (Nat × List Char)
  | '.' :: rest =>
    let run := rest.takeWhile Char.isDigit
    if run = [] then none
    else
      let kept := run.take 9
      some (digitsValue 0 kept * Nat.pow 10 (9 - kept.length), rest.dropWhile Char.isDigit)
  | text => some (0, text)

/-- An offset from universal time in seconds: a `Z`, the letters `UTC`, or a sign, two digits of
hours and two of minutes. -/
def readOffset? (text : List Char) : Option (Int × List Char) :=
  let text := skipBlanks text
  if (text.take 3).map Char.toLower = ['u', 't', 'c'] then some (0, text.drop 3)
  else match text with
    | 'Z' :: rest | 'z' :: rest => some (0, rest)
    | sign :: h₁ :: h₂ :: rest =>
      if (sign = '+' ∨ sign = '-' ∨ sign = '−') ∧ h₁.isDigit ∧ h₂.isDigit then
        match rest.dropWhile (fun c => c == ':' || isBlank c) with
        | m₁ :: m₂ :: rest =>
          if '0' ≤ m₁ ∧ m₁ ≤ '5' ∧ m₂.isDigit then
            let size : Int := digitsValue 0 [h₁, h₂] * 3600 + digitsValue 0 [m₁, m₂] * 60
            if size < 86400 then some (if sign = '+' then size else -size, rest) else none
          else none
        | _ => none
      else none
    | _ => none

/-- The moment of a text: a date, a time of day and an offset, which may not lead out of the
calendar. -/
def parse? (text : String) : Option Timestamp := do
  let (year, rest) ← readYear? text.toList
  let rest ← readMark? '-' rest
  let (month, rest) ← readDigits? 2 rest
  let rest ← readMark? '-' rest
  let (day, rest) ← readDigits? 2 rest
  let rest ← readTimeMark? rest
  let (hour, rest) ← readDigits? 2 rest
  let rest ← readMark? ':' rest
  let (minute, rest) ← readDigits? 2 rest
  let rest ← readMark? ':' rest
  let (second, rest) ← readDigits? 2 rest
  let (nanos, rest) ← readFraction? rest
  let (offset, rest) ← readOffset? rest
  if !(skipBlanks rest).isEmpty then none
  else if !isDate year month day || !isYear year then none
  else if hour > 23 ∨ minute > 59 ∨ second > 60 then none
  else
    let whole : Int := daysFromDate year month day * 86400 + hour * 3600 + minute * 60
    let leap := second = 60
    let seconds := whole + (if leap then 59 else second) - offset
    if !isYear (dateFromDays (seconds.fdiv 86400)).1 then none
    else some { seconds, nanos := nanos + (if leap then nanosPerSecond else 0) }

/-! ## Writing -/

/-- A number with leading zeros up to `width` digits. -/
def padDigits (width n : Nat) : String :=
  let digits := Nat.toDigits 10 n
  String.ofList (List.replicate (width - digits.length) '0' ++ digits)

/-- A year of four digits; one outside `0 … 9999` carries a sign. -/
def yearText (year : Int) : String :=
  if 0 ≤ year ∧ year ≤ 9999 then padDigits 4 year.toNat
  else (if year < 0 then "-" else "+") ++ padDigits 4 year.natAbs

/-- The fraction with no, three, six or nine digits. -/
def fractionText (nanos : Nat) : String :=
  if nanos = 0 then ""
  else if nanos % 1000000 = 0 then "." ++ padDigits 3 (nanos / 1000000)
  else if nanos % 1000 = 0 then "." ++ padDigits 6 (nanos / 1000)
  else "." ++ padDigits 9 nanos

/-- The RFC 3339 text of the moment in universal time. -/
def text (t : Timestamp) : String :=
  let days := t.seconds.fdiv 86400
  let ofDay := (t.seconds - days * 86400).toNat
  let (year, month, day) := dateFromDays days
  let leap := t.nanos / nanosPerSecond
  yearText year ++ "-" ++ padDigits 2 month ++ "-" ++ padDigits 2 day ++ "T"
    ++ padDigits 2 (ofDay / 3600) ++ ":" ++ padDigits 2 (ofDay / 60 % 60) ++ ":"
    ++ padDigits 2 (ofDay % 60 + leap) ++ fractionText (t.nanos % nanosPerSecond) ++ "Z"

/-- The time of day, hours to seconds. -/
def clockText (t : Timestamp) : String :=
  let ofDay := (t.seconds - t.seconds.fdiv 86400 * 86400).toNat
  padDigits 2 (ofDay / 3600) ++ ":" ++ padDigits 2 (ofDay / 60 % 60) ++ ":"
    ++ padDigits 2 (ofDay % 60 + t.nanos / nanosPerSecond)

end Timestamp

instance : Wire Timestamp := ⟨fun t => .string t.text, fun j => j.string? >>= Timestamp.parse?⟩

end StrategyDesk
