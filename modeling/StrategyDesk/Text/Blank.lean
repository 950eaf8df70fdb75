/-!
# Blank characters

The characters with the Unicode property `White_Space`, and texts without them at either end.

## Main Definitions

* `isBlank` — the property
* `trim` — a text without leading and trailing blanks
-/

namespace StrategyDesk

/-- The Unicode property `White_Space`. -/
def isBlank (c : Char) : Bool :=
  let n := c.toNat
  (0x09 ≤ n && n ≤ 0x0D) || n == 0x20 || n == 0x85 || n == 0xA0 || n == 0x1680
    || (0x2000 ≤ n && n ≤ 0x200A) || n == 0x2028 || n == 0x2029 || n == 0x202F
    || n == 0x205F || n == 0x3000

/-- The characters without leading and trailing blanks. -/
def trimChars (text : List Char) : List Char :=
  ((text.dropWhile isBlank).reverse.dropWhile isBlank).reverse

/-- The text without leading and trailing blanks. -/
def trim (text : String) : String := String.ofList (trimChars text.toList)

/-- Nothing but blanks. -/
def isBlankText (text : String) : Bool := text.toList.all isBlank

end StrategyDesk
