import StrategyDesk.Number.Rounding

/-!
# Binary64 numbers

The double-precision numbers of IEEE 754, as exact values: a finite number is a sign, a mantissa
of at most 53 bits and an exponent, and every operation computes on the exact rational value and
rounds once.

## Main Definitions

* `Binary64` — finite numbers (each with one spelling), the two infinities, not-a-number
* `Binary64.toRat` — the exact value of a finite number
* `Binary64.ofRatio` — the binary64 number nearest to a quotient, a tie going to the even mantissa

## Design Notes

Equality of the type tells `0.0` from `-0.0` and makes not-a-number equal to itself; `Binary64.beq`
is the comparison of numbers, where the two zeros agree and not-a-number differs from everything.
-/

namespace StrategyDesk

/-- How many values a word of some bits has. -/
def wordSize (bits : Nat) : Nat := Nat.pow 2 bits

/-- The limits of a finite number. A mantissa below `2 ^ 52` is allowed only at the lowest
exponent, so that no number has two spellings. -/
def Binary64.Fits (mantissa : Nat) (exponent : Int) : Prop :=
  mantissa < Nat.pow 2 53 ∧ -1074 ≤ exponent ∧ exponent ≤ 971
    ∧ (Nat.pow 2 52 ≤ mantissa ∨ exponent = -1074)

instance (mantissa : Nat) (exponent : Int) : Decidable (Binary64.Fits mantissa exponent) :=
  inferInstanceAs (Decidable (_ ∧ _ ∧ _ ∧ (_ ∨ _)))

/-- A binary64 number; a finite one has the value `± mantissa · 2 ^ exponent`. -/
inductive Binary64 where
  | finite (negative : Bool) (mantissa : Nat) (exponent : Int)
      (fits : Binary64.Fits mantissa exponent)
  | infinite (negative : Bool)
  | nan
deriving DecidableEq

namespace Binary64

/-- The sign and the exact magnitude, as a quotient, of a finite number. -/
def ratio? : Binary64 → Option (Bool × Nat × Nat)
  | finite negative mantissa exponent _ =>
    some (negative, mantissa * Nat.pow 2 exponent.toNat, Nat.pow 2 (-exponent).toNat)
  | _ => none

/-- The exact value of a finite number; the others read as zero. -/
def toRat : Binary64 → Rat
  | finite negative mantissa exponent _ =>
    let numerator : Int := (mantissa * Nat.pow 2 exponent.toNat : Nat)
    mkRat (if negative then -numerator else numerator) (Nat.pow 2 (-exponent).toNat)
  | _ => 0

/-- Neither infinite nor not-a-number. -/
def isFinite : Binary64 → Bool
  | finite .. => true
  | _ => false

def isNaN : Binary64 → Bool
  | nan => true
  | _ => false

/-- The sign bit; the zero with a sign has it too. -/
def isNegative : Binary64 → Bool
  | finite negative .. => negative
  | infinite negative => negative
  | nan => false

/-- The number with this sign, mantissa and exponent; infinite where they do not fit. -/
def ofParts (negative : Bool) (mantissa : Nat) (exponent : Int) : Binary64 :=
  if fits : Fits mantissa exponent then finite negative mantissa exponent fits
  else infinite negative

/-- The zero with this sign. -/
def zero (negative : Bool) : Binary64 := ofParts negative 0 (-1074)

/-- The largest `k` with `2 ^ k ≤ num / den`, for positive operands. -/
def floorLog2 (num den : Nat) : Int :=
  let estimate : Int := (num.log2 : Int) - den.log2
  if num * Nat.pow 2 (-estimate).toNat < den * Nat.pow 2 estimate.toNat then estimate - 1
  else estimate

/-- The number nearest to `± num / den`. A tie goes to the even mantissa, and what rounds beyond
the largest finite number is infinite. -/
def ofRatio (negative : Bool) (num den : Nat) : Binary64 :=
  if num = 0 then zero negative
  else
    let exponent := max (floorLog2 num den - 52) (-1074)
    let mantissa :=
      roundQuotient .toEven (num * Nat.pow 2 (-exponent).toNat) (den * Nat.pow 2 exponent.toNat)
    if mantissa = Nat.pow 2 53 then ofParts negative (Nat.pow 2 52) (exponent + 1)
    else ofParts negative mantissa exponent

/-- The number nearest to an integer. -/
def ofInt (n : Int) : Binary64 := ofRatio (n < 0) n.natAbs 1

/-- The number nearest to a natural number. -/
def ofNat (n : Nat) : Binary64 := ofRatio false n 1

/-! ## Comparison -/

/-- The numeric order; not-a-number is below and above nothing. -/
def lt : Binary64 → Binary64 → Bool
  | nan, _ => false
  | _, nan => false
  | infinite a, infinite b => a && !b
  | infinite a, finite .. => a
  | finite .., infinite b => !b
  | x@(finite ..), y@(finite ..) => x.toRat < y.toRat

/-- Numeric equality: the two zeros agree, and not-a-number differs from itself. -/
def beq : Binary64 → Binary64 → Bool
  | nan, _ => false
  | _, nan => false
  | infinite a, infinite b => a == b
  | infinite _, finite .. => false
  | finite .., infinite _ => false
  | x@(finite ..), y@(finite ..) => x.toRat == y.toRat

/-- The numeric order or equality. -/
def le (x y : Binary64) : Bool := x.lt y || x.beq y

/-- The smaller of two numbers, the first when they agree; a number wins over not-a-number. -/
def min (x y : Binary64) : Binary64 :=
  if x.isNaN then y else if y.lt x then y else x

/-- The larger of two numbers, the first when they agree; a number wins over not-a-number. -/
def max (x y : Binary64) : Binary64 :=
  if x.isNaN then y else if x.lt y then y else x

/-! ## Arithmetic -/

/-- The product, rounded once. -/
def mul (x y : Binary64) : Binary64 :=
  let negative := x.isNegative != y.isNegative
  match x, y with
  | nan, _ => nan
  | _, nan => nan
  | finite _ 0 _ _, infinite _ => nan
  | infinite _, finite _ 0 _ _ => nan
  | infinite _, _ => infinite negative
  | _, infinite _ => infinite negative
  | x, y =>
    match x.ratio?, y.ratio? with
    | some (_, n, d), some (_, n', d') => ofRatio negative (n * n') (d * d')
    | _, _ => nan

/-- The quotient, rounded once. -/
def div (x y : Binary64) : Binary64 :=
  let negative := x.isNegative != y.isNegative
  match x, y with
  | nan, _ => nan
  | _, nan => nan
  | infinite _, infinite _ => nan
  | infinite _, _ => infinite negative
  | _, infinite _ => zero negative
  | finite _ 0 _ _, finite _ 0 _ _ => nan
  | _, finite _ 0 _ _ => infinite negative
  | x, y =>
    match x.ratio?, y.ratio? with
    | some (_, n, d), some (_, n', d') => ofRatio negative (n * d') (d * n')
    | _, _ => nan

/-- The remainder of the quotient rounded toward zero; exact, with the sign of `x`. -/
def rem (x y : Binary64) : Binary64 :=
  match x, y with
  | nan, _ => nan
  | _, nan => nan
  | infinite _, _ => nan
  | x, infinite _ => x
  | _, finite _ 0 _ _ => nan
  | x, y =>
    match x.ratio?, y.ratio? with
    | some (negative, n, d), some (_, n', d') =>
      ofRatio negative ((n * d') % (n' * d)) (d * d')
    | _, _ => nan

/-! ## Whole numbers -/

/-- A natural number as near as the word size allows: what is too large is `2 ^ bits - 1`. -/
def saturate (bits n : Nat) : Nat := Nat.min n (wordSize bits - 1)

/-- The whole part as an unsigned word of `bits` bits: what is below zero, and not-a-number, is
`0`, and what is too large is the largest word. -/
def floorWord (bits : Nat) : Binary64 → Nat
  | infinite negative => if negative then 0 else wordSize bits - 1
  | nan => 0
  | x@(finite ..) =>
    match x.ratio? with
    | some (false, n, d) => saturate bits (n / d)
    | _ => 0

/-- The nearest whole number as an unsigned word of `bits` bits, with a half going up and the
limits of `floorWord`. -/
def roundWord (bits : Nat) : Binary64 → Nat
  | infinite negative => if negative then 0 else wordSize bits - 1
  | nan => 0
  | x@(finite ..) =>
    match x.ratio? with
    | some (false, n, d) => saturate bits (roundQuotient .up n d)
    | _ => 0

/-- The nearest number within `[0, 100]`; not-a-number stays as it is. -/
def clampPercent (x : Binary64) : Binary64 :=
  if x.lt (zero false) then zero false
  else if (ofNat 100).lt x then ofNat 100
  else x

end Binary64

end StrategyDesk
