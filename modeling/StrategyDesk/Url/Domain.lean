import StrategyDesk.Text.Layout
import StrategyDesk.Text.Uppercase

/-!
# Domain names

The ASCII form of a domain name: letters in lower case, and a label with other characters in
Punycode after the mark `xn--`.

## Main Definitions

* `Punycode.encode`, `Punycode.decode?`
* `domainToAscii?`

## Design Notes

Before encoding, a label is mapped: letters to lower case, full-width forms to ASCII, other full
stops to the full stop, and invisible characters to nothing.
-/

namespace StrategyDesk

namespace Punycode

/-- The next bias after a delta was written. -/
def adapt (delta count : Nat) (first : Bool) : Nat :=
  let start := if first then delta / 700 else delta / 2
  let rec shrink : Nat → Nat → Nat → Nat × Nat
    | 0, delta, k => (delta, k)
    | fuel + 1, delta, k => if 455 < delta then shrink fuel (delta / 35) (k + 36) else (delta, k)
  let (delta, k) := shrink 64 (start + start / count) 0
  k + 36 * delta / (delta + 38)

/-- The threshold of a place. -/
def threshold (k bias : Nat) : Nat := if k ≤ bias then 1 else if bias + 26 ≤ k then 26 else k - bias

/-- A digit: the letters, then the figures. -/
def digit (n : Nat) : Char :=
  if n < 26 then Char.ofNat ('a'.toNat + n) else Char.ofNat ('0'.toNat + (n - 26))

def digit? (c : Char) : Option Nat :=
  if 'a' ≤ c ∧ c ≤ 'z' then some (c.toNat - 'a'.toNat)
  else if '0' ≤ c ∧ c ≤ '9' then some (c.toNat - '0'.toNat + 26)
  else none

/-- A delta as digits of falling thresholds, the lowest place first. -/
def writeDelta (bias : Nat) : Nat → Nat → Nat → List Char
  | 0, _, _ => []
  | fuel + 1, q, k =>
    let t := threshold k bias
    if q < t then [digit q]
    else digit (t + (q - t) % (36 - t)) :: writeDelta bias fuel ((q - t) / (36 - t)) (k + 36)

/-- The state of a conversion: the code point reached, the delta so far, the bias, and how many
characters are done. -/
structure State where
  point : Nat
  delta : Nat
  bias : Nat
  done : Nat

/-- Writes all occurrences of one code point. -/
def writePoint (label : List Nat) (basic point : Nat) (s : State) : List Char × State :=
  let (out, s) := label.foldl (fun (out, s) c =>
    if c < point then (out, { s with delta := s.delta + 1 })
    else if c = point then
      (out ++ writeDelta s.bias 64 s.delta 36,
        { s with delta := 0, bias := adapt s.delta (s.done + 1) (s.done = basic)
                 done := s.done + 1 })
    else (out, s)) (([] : List Char), s)
  (out, { s with delta := s.delta + 1, point := point + 1 })

/-- The Punycode form of a label. -/
def encode (label : List Char) : List Char :=
  let points := label.map Char.toNat
  let basic := label.filter (·.toNat < 0x80)
  let others := ((points.filter (0x80 ≤ ·)).mergeSort (· ≤ ·)).eraseDups
  let start : State := ⟨0x80, 0, 72, basic.length⟩
  let (out, _) := others.foldl (fun (out, s) point =>
    let s := { s with delta := s.delta + (point - s.point) * (s.done + 1) }
    let (more, s) := writePoint points basic.length point s
    (out ++ more, s)) (([] : List Char), start)
  basic ++ (if basic.isEmpty then [] else ['-']) ++ out

/-- One delta from the front of a text, and what is left. -/
def readDelta (bias : Nat) : List Char → Nat → Nat → Nat → Option (Nat × List Char)
  | [], _, _, _ => none
  | c :: rest, value, weight, k => do
    let d ← digit? c
    let value := value + d * weight
    let t := threshold k bias
    if d < t then some (value, rest)
    else readDelta bias rest value (weight * (36 - t)) (k + 36)

/-- Puts characters in their places among `basic` plain ones until the text is used up. -/
def place (basic : Nat) : Nat → List Char → List Nat → Nat → Nat → Nat → Option (List Nat)
  | 0, _, _, _, _, _ => none
  | _, [], out, _, _, _ => some out
  | fuel + 1, text, out, point, index, bias => do
    let (delta, rest) ← readDelta bias text 0 1 36
    let count := out.length + 1
    let total := index + delta
    let point := point + total / count
    let index := total % count
    if point < 0x110000 ∧ ¬(0xD800 ≤ point ∧ point < 0xE000) then
      place basic fuel rest (out.take index ++ point :: out.drop index) point (index + 1)
        (adapt delta count (out.length = basic))
    else none

/-- The label of a Punycode form. -/
def decode? (text : List Char) : Option (List Char) :=
  let after := (text.reverse.takeWhile (· != '-')).reverse
  let before := text.take (text.length - after.length - 1)
  (place before.length (after.length + 1) after (before.map Char.toNat) 0x80 0 72).map
    (·.map Char.ofNat)

end Punycode

/-- The lower case of a character, by the widest run of letters whose upper case it is. -/
def lowerLetter (c : Char) : Char :=
  let n := c.toNat
  if n < 0x80 then c.toLower
  else
    let lower (run : CaseRun) : Nat := ((n : Int) - run.offset).toNat
    let runs := upperRuns.filter fun run => run.holds (lower run)
    match runs.mergeSort fun a b => b.last - b.first ≤ a.last - a.first with
    | run :: _ => Char.ofNat (lower run)
    | [] => c

/-- Characters that a domain name may hold and that stand for nothing. -/
def isInvisible (n : Nat) : Bool :=
  n == 0xAD || n == 0x200B || n == 0x2060 || n == 0x2064 || n == 0xFEFF
    || (0x180B ≤ n && n ≤ 0x180D) || (0xFE00 ≤ n && n ≤ 0xFE0F)

/-- Characters that no domain name may hold. -/
def isDisallowed (n : Nat) : Bool :=
  (0x80 ≤ n && n ≤ 0x9F) || (0x2028 ≤ n && n ≤ 0x202E) || (0x2066 ≤ n && n ≤ 0x206F)
    || (0xE000 ≤ n && n ≤ 0xF8FF) || (0xFFF9 ≤ n && n ≤ 0xFFFF) || (0xFDD0 ≤ n && n ≤ 0xFDEF)
    || (0xF0000 ≤ n)

/-- What a character of a domain name stands for. -/
def mapDomainChar (c : Char) : List Char :=
  let n := c.toNat
  if isInvisible n then []
  else if n == 0x3002 || n == 0xFF0E || n == 0xFF61 then ['.']
  else if 0xFF01 ≤ n && n ≤ 0xFF5E then [(Char.ofNat (n - 0xFEE0)).toLower]
  else if n == 0xA0 || n == 0x3000 || (0x2000 ≤ n && n ≤ 0x200A) then [' ']
  else [lowerLetter c]

/-- The ASCII characters that no domain name may hold. -/
def isDomainBreaker (c : Char) : Bool :=
  c.toNat ≤ 0x20 || c.toNat == 0x7F
    || ['%', '#', '/', ':', '<', '>', '?', '@', '[', '\\', ']', '^', '|'].contains c

/-- The ASCII form of a mapped label. -/
def labelToAscii? (label : List Char) : Option (List Char) :=
  if label.take 4 = ['x', 'n', '-', '-'] then
    match Punycode.decode? (label.drop 4) with
    | some decoded =>
      if decoded.all (·.toNat < 0x80) ∨ decoded.flatMap mapDomainChar ≠ decoded
          ∨ decoded.any (isDisallowed ·.toNat) then none
      else some label
    | none => none
  else if label.all (·.toNat < 0x80) then some label
  else some (['x', 'n', '-', '-'] ++ Punycode.encode label)

/-- The ASCII form of a domain name, if it is one. -/
def domainToAscii? (name : List Char) : Option String := do
  let mapped := name.flatMap mapDomainChar
  if mapped.any fun c => isDomainBreaker c || isDisallowed c.toNat then none
  let labels ← (splitChars '.' mapped).mapM labelToAscii?
  some (String.ofList (List.intercalate ['.'] labels))

end StrategyDesk
