/-!
# Text layout

Splitting at a separator, and columns of a fixed width counted in characters.

## Main Definitions

* `splitText` — the pieces between separators, one more than there are separators
* `padRight`, `padLeft` — a column of a width
-/

namespace StrategyDesk

/-- The pieces of a text between the separators; there is always a first one. -/
def splitChars (separator : Char) : List Char → List (List Char)
  | [] => [[]]
  | c :: rest =>
    match splitChars separator rest with
    | [] => [[c]]
    | piece :: pieces =>
      if c = separator then [] :: piece :: pieces else (c :: piece) :: pieces

/-- The pieces of a text between the separators. -/
def splitText (separator : Char) (text : String) : List String :=
  (splitChars separator text.toList).map String.ofList

/-- The text followed by blanks up to `width` characters. -/
def padRight (width : Nat) (text : String) : String :=
  text ++ String.ofList (List.replicate (width - text.length) ' ')

/-- The text after blanks up to `width` characters. -/
def padLeft (width : Nat) (text : String) : String :=
  String.ofList (List.replicate (width - text.length) ' ') ++ text

/-- The ASCII letters in lower case, all else unchanged. -/
def lowerAscii (text : String) : String := String.ofList (text.toList.map Char.toLower)

/-- The texts agree up to the case of ASCII letters. -/
def sameIgnoringCase (a b : String) : Bool := lowerAscii a == lowerAscii b

/-- The text without one character at its end, as often as it stands there. -/
def dropTrailing (c : Char) (text : String) : String :=
  String.ofList (text.toList.reverse.dropWhile (· == c)).reverse

end StrategyDesk
