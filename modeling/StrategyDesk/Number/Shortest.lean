import StrategyDesk.Number.Binary64

/-!
# Shortest decimal text of a binary64 number

The decimal with the fewest digits that reads back as the same number, and of those the nearest.

## Main Definitions

* `Decimal` — `digits · 10 ^ exponent`
* `Binary64.shortest` — the shortest decimal of a positive finite number
* `FloatLayout`, `Binary64.format` — how a decimal is laid out as text

## Design Notes

A number `m · 2 ^ e` is what every real between its two half-way neighbours reads back as, ends
included exactly when `m` is even. Of the grids `10 ^ k` the coarsest one with a point in that
interval is taken; if a point of a grid lies in the interval, so does one of the two grid points
next to the number, so only these are tried.
-/

namespace StrategyDesk

/-- The decimal `digits · 10 ^ exponent`. -/
structure Decimal where
  digits : Nat
  exponent : Int
deriving DecidableEq, Repr

namespace Decimal

/-- Moves up to `fuel` trailing zeros of the digits into the exponent. -/
def trimFrom : Nat → Decimal → Decimal
  | 0, d => d
  | fuel + 1, d =>
    if d.digits ≠ 0 ∧ d.digits % 10 = 0 then trimFrom fuel ⟨d.digits / 10, d.exponent + 1⟩ else d

/-- The decimal without trailing zeros among its digits. -/
def trim (d : Decimal) : Decimal := trimFrom (d.digits.log2 + 1) d

end Decimal

namespace Binary64

/-- The reals that read back as `mantissa · 2 ^ exponent`, as multiples of `2 ^ (exponent - 2)`. -/
structure Neighbourhood where
  low : Nat
  high : Nat
  /-- The ends belong to it. -/
  closed : Bool

/-- Half way to the neighbours on either side. Below a power of two the numbers lie twice as
close, except at the lowest exponent. -/
def neighbourhood (mantissa : Nat) (exponent : Int) : Neighbourhood where
  low := if mantissa = Nat.pow 2 52 ∧ exponent ≠ -1074 then 4 * mantissa - 1 else 4 * mantissa - 2
  high := 4 * mantissa + 2
  closed := mantissa % 2 = 0

/-- The point nearest to `4 · mantissa` of the grid `10 ^ k` inside the neighbourhood, if there is
one; all lengths are in units of `2 ^ (exponent - 2)`. Of two equally near points the even one. -/
def gridPoint? (mantissa : Nat) (exponent : Int) (k : Int) : Option Nat :=
  let unit := exponent - 2
  -- a point `p` of the grid is `p * scale / den` units
  let scale := Nat.pow 10 k.toNat * Nat.pow 2 (-unit).toNat
  let den := Nat.pow 10 (-k).toNat * Nat.pow 2 unit.toNat
  let area := neighbourhood mantissa exponent
  let inside (p : Nat) : Bool :=
    if area.closed then area.low * den ≤ p * scale && p * scale ≤ area.high * den
    else area.low * den < p * scale && p * scale < area.high * den
  let value := 4 * mantissa * den
  let below := value / scale
  let above := below + 1
  match inside below, inside above with
  | false, false => none
  | true, false => some below
  | false, true => some above
  | true, true =>
    let left := value - below * scale
    let right := above * scale - value
    if left < right then some below
    else if right < left then some above
    else if below % 2 = 0 then some below else some above

/-- Tries the grids `10 ^ k`, `10 ^ (k - 1)`, … -/
def shortestFrom (mantissa : Nat) (exponent : Int) : Nat → Int → Decimal
  | 0, k => ⟨mantissa, k⟩
  | fuel + 1, k =>
    match gridPoint? mantissa exponent k with
    | some digits => (Decimal.mk digits k).trim
    | none => shortestFrom mantissa exponent fuel (k - 1)

/-- The shortest decimal of the positive number `mantissa · 2 ^ exponent`. The first grid is
coarser than the number itself, and seventeen digits always suffice. -/
def shortest (mantissa : Nat) (exponent : Int) : Decimal :=
  shortestFrom mantissa exponent 22 (((mantissa.log2 : Int) + exponent + 1) * 30103 / 100000 + 2)

end Binary64

/-! ## Layout -/

/-- How a decimal number is written. -/
structure FloatLayout where
  /-- Scientific exponents, from lowest to highest, that are written out in positions; the others
  take an exponent. `none` writes every number in positions. -/
  positional : Option (Int × Int)
  /-- A whole number keeps `.0`. -/
  wholeWithPoint : Bool
deriving DecidableEq, Repr

/-- The digits of a natural number as characters. -/
def decimalDigits (n : Nat) : List Char := Nat.toDigits 10 n

namespace Decimal

/-- The exponent of the first digit. -/
def scientific (d : Decimal) : Int := d.exponent + (decimalDigits d.digits).length - 1

/-- The decimal written out in positions. -/
def positional (wholeWithPoint : Bool) (d : Decimal) : List Char :=
  let digits := decimalDigits d.digits
  if 0 ≤ d.exponent then
    digits ++ List.replicate d.exponent.toNat '0' ++ (if wholeWithPoint then ['.', '0'] else [])
  else
    let places := (-d.exponent).toNat
    let padded := List.replicate (places + 1 - digits.length) '0' ++ digits
    let whole := padded.length - places
    padded.take whole ++ '.' :: padded.drop whole

/-- One digit before the point, and the sign and digits of the exponent after the mark. -/
def withExponent (d : Decimal) : List Char :=
  let fraction := (decimalDigits d.digits).drop 1
  (decimalDigits d.digits).take 1 ++ (if fraction.isEmpty then [] else '.' :: fraction)
    ++ 'e' :: (if d.scientific < 0 then '-' else '+') :: decimalDigits d.scientific.natAbs

/-- The text of the decimal. -/
def format (layout : FloatLayout) (d : Decimal) : List Char :=
  match layout.positional with
  | none => d.positional layout.wholeWithPoint
  | some (lowest, highest) =>
    if lowest ≤ d.scientific ∧ d.scientific ≤ highest then d.positional layout.wholeWithPoint
    else d.withExponent

end Decimal

namespace Binary64

/-- The shortest text of a number. The sign of zero is kept; the words for the numbers that are
not finite are `inf`, `-inf` and `NaN`. -/
def format (layout : FloatLayout) : Binary64 → String
  | nan => "NaN"
  | infinite negative => if negative then "-inf" else "inf"
  | finite negative mantissa exponent _ =>
    let decimal := if mantissa = 0 then ⟨0, 0⟩ else shortest mantissa exponent
    String.ofList ((if negative then ['-'] else []) ++ decimal.format layout)

/-- Numbers shown to people: in positions, whole ones without a point. -/
def plainLayout : FloatLayout := ⟨none, false⟩

/-- The text shown to people. -/
def plain (x : Binary64) : String := x.format plainLayout

/-- The number rounded to `places` decimals, a tie going to the even digit. A sign stays even
when only zeros are left. -/
def fixed (places : Nat) : Binary64 → String
  | nan => "NaN"
  | infinite negative => if negative then "-inf" else "inf"
  | x@(finite ..) =>
    match x.ratio? with
    | none => ""
    | some (negative, n, d) =>
      let scaled := decimalDigits (roundQuotient .toEven (n * Nat.pow 10 places) d)
      let padded := List.replicate (places + 1 - scaled.length) '0' ++ scaled
      let whole := padded.length - places
      String.ofList ((if negative then ['-'] else []) ++ padded.take whole
        ++ (if places = 0 then [] else '.' :: padded.drop whole))

end Binary64

end StrategyDesk
