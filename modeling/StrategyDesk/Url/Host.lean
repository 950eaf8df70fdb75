import StrategyDesk.Url.Domain
import StrategyDesk.Url.Fault
import StrategyDesk.Url.Percent

/-!
# Hosts

The host of a URL: a domain name, or a network address of one of two kinds.

## Main Definitions

* `Host`, `Host.text`
* `Host.parse` — the host of a web address
* `Host.checkOpaque` — whether a text may stand where any host name will do
-/

namespace StrategyDesk

/-- The host of a URL. -/
inductive Host where
  | domain (name : String)
  | ipv4 (address : Nat)
  /-- Eight pieces of 16 bits. -/
  | ipv6 (pieces : List Nat)
deriving DecidableEq, Repr

/-! ## Addresses of four bytes -/

/-- What a part of an address between points is. -/
inductive AddressPart where
  | notANumber
  /-- A number that does not fit 32 bits. -/
  | tooLarge
  | number (n : Nat)

/-- A number in octal after `0`, in hexadecimal after `0x`, and in decimal otherwise. -/
def addressPart (text : List Char) : AddressPart :=
  let (base, digits) : Nat × List Char := match text with
    | '0' :: 'x' :: rest => (16, rest)
    | '0' :: 'X' :: rest => (16, rest)
    | '0' :: c :: rest => (8, c :: rest)
    | _ => (10, text)
  if text.isEmpty then .notANumber
  else
    match digitsInBase? base digits with
    | none => .notANumber
    | some n => if n < wordSize 32 then .number n else .tooLarge

/-- The last part of a name, before a point at its end, is a number: then the whole name has to be
an address. -/
def endsInNumber (name : List Char) : Bool :=
  let last? := match (splitChars '.' name).reverse with
    | [] :: last :: _ => some last
    | [[]] => none
    | last :: _ => some last
    | [] => none
  match last? with
  | none => false
  | some last =>
    (!last.isEmpty && last.all Char.isDigit)
      || match addressPart last with
        | .notANumber => false
        | _ => true

/-- An address of at most four numbers; the last one fills the bytes that are left. -/
def parseIPv4? (name : List Char) : Option Nat := do
  let parts := splitChars '.' name
  let parts := if parts.getLast? = some [] then parts.dropLast else parts
  if 4 < parts.length then none
  let numbers ← parts.mapM fun part => match addressPart part with
    | .number n => some n
    | _ => none
  let last ← numbers.getLast?
  let front := numbers.dropLast
  if front.any (255 < ·) ∨ Nat.pow 256 (4 - front.length) ≤ last then none
  else
    let high := front.foldl (fun n d => 256 * n + d) 0
    some (high * Nat.pow 256 (4 - front.length) + last)

/-! ## Addresses of eight pieces -/

/-- The two pieces of four decimal bytes, none above 255 and none with a leading zero. -/
def embeddedIPv4? (text : List Char) : Option (List Nat) := do
  let bytes ← (splitChars '.' text).mapM fun part =>
    if part.isEmpty ∨ 3 < part.length ∨ !part.all Char.isDigit ∨ (part.length ≠ 1 ∧
        part.head? = some '0') then none
    else
      let n := part.foldl (fun n c => 10 * n + (c.toNat - '0'.toNat)) 0
      if n ≤ 255 then some n else none
  match bytes with
  | [a, b, c, d] => some [256 * a + b, 256 * c + d]
  | _ => none

/-- One piece of one to four hexadecimal digits. -/
def addressPiece? (text : List Char) : Option Nat :=
  if text.isEmpty ∨ 4 < text.length then none
  else digitsInBase? 16 text

/-- The pieces of a part without a double colon; the last one may be four decimal bytes. -/
def addressPieces? (text : List Char) : Option (List Nat) :=
  if text.isEmpty then some []
  else
    let parts := splitChars ':' text
    let last := parts.getLast?.getD []
    if last.contains '.' then do
      let front ← parts.dropLast.mapM addressPiece?
      some (front ++ (← embeddedIPv4? last))
    else parts.mapM addressPiece?

/-- The text before and after the first double colon. -/
def splitDoubleColon : List Char → Option (List Char × List Char)
  | ':' :: ':' :: rest => some ([], rest)
  | c :: rest => (splitDoubleColon rest).map fun (before, after) => (c :: before, after)
  | [] => none

/-- An address of eight pieces, a double colon standing for one or more pieces of zero. -/
def parseIPv6? (text : List Char) : Option (List Nat) :=
  match splitDoubleColon text with
  | none => (addressPieces? text).filter (·.length = 8)
  | some (before, after) => do
    if before.contains '.' then none
    let front ← addressPieces? before
    let back ← addressPieces? after
    if front.length + back.length < 8 then
      some (front ++ List.replicate (8 - front.length - back.length) 0 ++ back)
    else none

/-- The start and length of the first of the longest runs of zero. -/
def longestZeros (pieces : List Nat) : Nat × Nat :=
  (List.range pieces.length).foldl (fun best i =>
    let run := ((pieces.drop i).takeWhile (· == 0)).length
    if best.2 < run then (i, run) else best) (0, 0)

/-- Pieces with colons between them. -/
def piecesText (pieces : List Nat) : String :=
  String.intercalate ":" (pieces.map fun p => String.ofList (Nat.toDigits 16 p))

/-- An address with its longest run of at least two zeros left out. -/
def ipv6Text (pieces : List Nat) : String :=
  let (start, length) := longestZeros pieces
  if length < 2 then piecesText pieces
  else piecesText (pieces.take start) ++ "::" ++ piecesText (pieces.drop (start + length))

namespace Host

/-- The written form of a host. -/
def text : Host → String
  | domain name => name
  | ipv4 n => s!"{n / 16777216}.{n / 65536 % 256}.{n / 256 % 256}.{n % 256}"
  | ipv6 pieces => "[" ++ ipv6Text pieces ++ "]"

/-- An address between brackets. -/
def parseBracketed (text : List Char) : Except UrlFault Host :=
  match text.getLast? with
  | some ']' =>
    match parseIPv6? (text.drop 1).dropLast with
    | some pieces => .ok (ipv6 pieces)
    | none => .error .badIPv6
  | _ => .error .badIPv6

/-- The host of a web address. -/
def parse (text : List Char) : Except UrlFault Host :=
  if text.head? = some '[' then parseBracketed text
  else
    match (String.fromUTF8? (ByteArray.mk (percentDecode text).toArray)).bind fun name =>
        domainToAscii? name.toList with
    | none => .error .badDomain
    | some name =>
      if name = "" then .error .emptyHost
      else if endsInNumber name.toList then
        match parseIPv4? name.toList with
        | some address => .ok (ipv4 address)
        | none => .error .badIPv4
      else .ok (domain name)

/-- The characters that no host may hold. -/
def breakers : List Char :=
  [Char.ofNat 0, '\t', '\n', '\r', ' ', '#', '/', ':', '<', '>', '?', '@', '[', '\\', ']', '^', '|']

/-- Whether a text may be the host of a URL whose hosts are not domain names. -/
def checkOpaque (text : List Char) : Except UrlFault Unit :=
  if text.head? = some '[' then (parseBracketed text).map fun _ => ()
  else if text.any breakers.contains then .error .badHostCharacter
  else .ok ()

end Host

end StrategyDesk
