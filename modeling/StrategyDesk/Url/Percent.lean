import StrategyDesk.Number.Reading

/-!
# Percent encoding

Texts inside a URL: characters that could be mistaken for its own punctuation are written as the
bytes of their UTF-8 form, each as a percent sign and two hexadecimal digits.

## Main Definitions

* `percentEncode`, `percentDecode`
* `EncodeSet.fragment`, `EncodeSet.path`, `EncodeSet.segment`, `EncodeSet.userInfo`,
  `EncodeSet.query` — the characters that each part of a URL encodes
* `formEncode` — the encoding of names and values in a query
-/

namespace StrategyDesk

/-- The characters that are encoded. Those beyond ASCII always are. -/
abbrev EncodeSet := Char → Bool

namespace EncodeSet

/-- Control characters and what is not ASCII. -/
def control : EncodeSet := fun c => c.toNat < 0x20 || 0x7F ≤ c.toNat

/-- The set with more characters. -/
def adding (set : EncodeSet) (more : List Char) : EncodeSet := fun c => set c || more.contains c

def fragment : EncodeSet := control.adding [' ', '"', '<', '>', '\x60']

def path : EncodeSet := fragment.adding ['#', '?', '\x7b', '\x7d']

/-- One segment of a path. It may hold any text, so the characters that separate segments, and the
percent sign, are encoded too. -/
def segment : EncodeSet := path.adding ['/', '%', '\\']

def userInfo : EncodeSet := path.adding ['/', ':', ';', '=', '@', '[', '\\', ']', '^', '|']

def query : EncodeSet := control.adding [' ', '"', '#', '<', '>', '\'']

end EncodeSet

/-- An upper-case hexadecimal digit. -/
def upperHexDigit (n : Nat) : Char := (Nat.digitChar n).toUpper

/-- A byte as a percent sign and two digits. -/
def percentByte (b : UInt8) : List Char :=
  ['%', upperHexDigit (b.toNat / 16), upperHexDigit (b.toNat % 16)]

/-- The text with the characters of a set encoded. -/
def percentEncode (set : EncodeSet) (text : List Char) : List Char :=
  text.flatMap fun c => if set c then (String.utf8EncodeChar c).flatMap percentByte else [c]

/-- The bytes of a text, each encoded one read back. A percent sign without two digits after it
stands for itself. -/
def percentDecode : List Char → List UInt8
  | '%' :: high :: low :: rest =>
    match digitsInBase? 16 [high, low] with
    | some byte => UInt8.ofNat byte :: percentDecode rest
    | none => String.utf8EncodeChar '%' ++ percentDecode (high :: low :: rest)
  | c :: rest => String.utf8EncodeChar c ++ percentDecode rest
  | [] => []

/-- The characters that stand as they are in the name or value of a query. -/
def isFormSafe (c : Char) : Bool := c.isAlphanum || ['*', '-', '.', '_'].contains c

/-- A name or value of a query: a blank becomes a plus sign. -/
def formEncode (text : String) : String :=
  String.ofList (text.toList.flatMap fun c =>
    if c = ' ' then ['+']
    else if isFormSafe c then [c]
    else (String.utf8EncodeChar c).flatMap percentByte)

end StrategyDesk
