import Mathlib.Algebra.Order.Round
import Mathlib.Data.Rat.Floor
import StrategyDesk.Proofs.Number.Rounding

/-!
# Numbers moved into a range

What becomes of a number that is moved into the range from 0 to 100 and rounded, and of one that is
not let below 0, said of its exact value.

## Main Definitions

* `Binary64.nearestPercent` — the whole percentage nearest to a number
* `Binary64.raised` — a number, or 0 in place of one that is not above it

## Main Statements

* `roundQuotient_up_eq_round` — a quotient whose halves go up is rounded as a rational number is
* `Binary64.roundWord_clampPercent` — a share of progress is rounded to the nearest percentage
* `Binary64.zero_max_eq_raised` — a duration is not let below 0
-/

namespace StrategyDesk

/-- A quotient whose halves go up is the next whole number below it and half a step. -/
theorem roundQuotient_up_eq_div (num : Nat) {den : Nat} (positive : 0 < den) :
    roundQuotient .up num den = (2 * num + den) / (2 * den) := by
  have split := Nat.div_add_mod num den
  have small := Nat.mod_lt num positive
  have total : 2 * num + den = 2 * (num % den) + den + 2 * den * (num / den) := by
    rw [mul_assoc]
    omega
  rw [total, Nat.add_mul_div_left _ _ (by omega)]
  unfold roundQuotient
  dsimp only
  split
  case isTrue below =>
    have none : (2 * (num % den) + den) / (2 * den) = 0 := Nat.div_eq_of_lt (by omega)
    rw [none, Nat.zero_add]
  case isFalse notBelow =>
    have one : (2 * (num % den) + den) / (2 * den) = 1 := by
      rw [Nat.div_eq_iff (by omega)]
      omega
    rw [one, ite_self, Nat.add_comm]

/-- **A quotient whose halves go up is rounded as a rational number is.** -/
theorem roundQuotient_up_eq_round (num : Nat) {den : Nat} (positive : 0 < den) :
    (roundQuotient .up num den : ℤ) = round ((num : ℚ) / den) := by
  have nonzero : (den : ℚ) ≠ 0 := by exact_mod_cast positive.ne'
  have shifted : (num : ℚ) / den + 1 / 2 = ((2 * num + den : ℕ) : ℚ) / (2 * den : ℕ) := by
    push_cast
    field_simp
  rw [round_eq, shifted, Rat.floor_natCast_div_natCast, roundQuotient_up_eq_div num positive]
  rfl

namespace Binary64

/-! ## Exact values -/

@[simp] theorem toRat_zero (negative : Bool) : (zero negative).toRat = 0 := by
  cases negative <;> decide +kernel

theorem isNaN_zero (negative : Bool) : (zero negative).isNaN = false := rfl

/-- The exact value of a finite number is the quotient that it is, with its sign. -/
theorem toRat_of_ratio? {x : Binary64} {negative : Bool} {num den : Nat}
    (ratio : x.ratio? = some (negative, num, den)) :
    x.toRat = if negative then -((num : ℚ) / den) else (num : ℚ) / den := by
  cases x with
  | infinite _ | nan => cases ratio
  | finite sign mantissa exponent fits =>
      simp only [ratio?, Option.some.injEq, Prod.mk.injEq] at ratio
      obtain ⟨rfl, rfl, rfl⟩ := ratio
      simp only [toRat, Rat.mkRat_eq_div]
      cases sign
      · simp
      · simp [neg_div]

/-- Finite numbers have the order of their exact values. -/
theorem lt_iff {x y : Binary64} (finite : x.isFinite = true) (finite' : y.isFinite = true) :
    x.lt y = true ↔ x.toRat < y.toRat := by
  cases x with
  | infinite _ | nan => cases finite
  | finite _ _ _ _ =>
      cases y with
      | infinite _ | nan => cases finite'
      | finite _ _ _ _ => exact decide_eq_true_iff

theorem le_iff {x y : Binary64} (finite : x.isFinite = true) (finite' : y.isFinite = true) :
    x.le y = true ↔ x.toRat ≤ y.toRat := by
  rw [le, Bool.or_eq_true, lt_iff finite finite', le_iff_lt_or_eq]
  refine or_congr_right ?_
  cases x with
  | infinite _ | nan => cases finite
  | finite _ _ _ _ =>
      cases y with
      | infinite _ | nan => cases finite'
      | finite _ _ _ _ => exact beq_iff_eq

/-- A number above zero has no sign. -/
theorem isNegative_of_toRat_pos {x : Binary64} (positive : 0 < x.toRat) :
    x.isNegative = false := by
  cases x with
  | infinite _ | nan => exact absurd positive (lt_irrefl 0)
  | finite sign mantissa exponent fits =>
      cases sign with
      | false => rfl
      | true =>
          rw [toRat_of_ratio? rfl, if_pos rfl, neg_pos] at positive
          exact absurd positive (not_lt.mpr (by positivity))

/-- The zero with a sign is the only number with one that is not below zero. -/
theorem toRat_eq_zero_of_isNegative {x : Binary64} (negative : x.isNegative = true)
    (nonneg : 0 ≤ x.toRat) : x.toRat = 0 := by
  refine le_antisymm (not_lt.mp fun positive => ?_) nonneg
  rw [isNegative_of_toRat_pos positive] at negative
  cases negative

/-! ## Percentages -/

/-- The whole percentage nearest to a number, a half going up. What lies outside of the range from
0 to 100 counts as its nearer end, and not-a-number as 0. -/
def nearestPercent : Binary64 → ℕ
  | x@(finite ..) => (round (0 ⊔ 100 ⊓ x.toRat)).toNat
  | infinite negative => if negative then 0 else 100
  | nan => 0

theorem round_clamped_le (q : ℚ) : round (0 ⊔ 100 ⊓ q) ≤ 100 := by
  have inside : 0 ⊔ 100 ⊓ q ≤ 100 := max_le (by norm_num) (min_le_left _ _)
  have monotone := Int.floor_le_floor (add_le_add_left inside (1 / 2 : ℚ))
  rw [round_eq]
  exact monotone.trans (by norm_num)

theorem nearestPercent_le (x : Binary64) : x.nearestPercent ≤ 100 := by
  cases x with
  | finite _ _ _ _ => exact Int.toNat_le.mpr (round_clamped_le _)
  | infinite negative => cases negative <;> simp [nearestPercent]
  | nan => exact Nat.zero_le _

/-- A number that is not below zero is rounded to the nearest whole number of the word. -/
theorem roundWord_of_nonneg {x : Binary64} (finite : x.isFinite = true) (nonneg : 0 ≤ x.toRat)
    (bits : Nat) : x.roundWord bits = saturate bits (round x.toRat).toNat := by
  obtain ⟨num, den, ratio, positive, -⟩ := ratio?_of_isFinite finite
  have value := toRat_of_ratio? ratio
  have word : x.roundWord bits =
      if x.isNegative then 0 else saturate bits (roundQuotient .up num den) := by
    cases x with
    | infinite _ | nan => cases finite
    | finite sign _ _ _ =>
        simp only [roundWord, ratio]
        cases sign <;> rfl
  rw [word]
  split at value
  case isTrue negative =>
    rw [if_pos negative, toRat_eq_zero_of_isNegative negative nonneg, round_zero]
    exact (Nat.min_eq_left (Nat.zero_le _)).symm
  case isFalse notNegative =>
    rw [if_neg notNegative, value, ← roundQuotient_up_eq_round num positive, Int.toNat_natCast]

theorem toRat_hundred : (ofNat 100).toRat = 100 := by decide +kernel

/-- **A share of progress is rounded to the nearest whole percentage**, and fits a byte. -/
theorem roundWord_clampPercent (x : Binary64) : x.clampPercent.roundWord 8 = x.nearestPercent := by
  cases x with
  | nan => rfl
  | infinite negative => cases negative <;> decide +kernel
  | finite negative mantissa exponent fits =>
      let x : Binary64 := finite negative mantissa exponent fits
      have below : x.lt (zero false) = true ↔ x.toRat < 0 := by rw [lt_iff rfl rfl, toRat_zero]
      have above : (ofNat 100).lt x = true ↔ 100 < x.toRat := by rw [lt_iff rfl rfl, toRat_hundred]
      change (clampPercent x).roundWord 8 = (round (0 ⊔ 100 ⊓ x.toRat)).toNat
      unfold clampPercent
      simp only [below, above]
      split
      case isTrue low =>
        have clamped : 0 ⊔ 100 ⊓ x.toRat = 0 :=
          max_eq_left ((min_le_right _ _).trans low.le)
        rw [clamped, round_zero]
        decide +kernel
      case isFalse notLow =>
        split
        case isTrue high =>
          have clamped : 0 ⊔ 100 ⊓ x.toRat = ((100 : ℕ) : ℚ) := by
            rw [min_eq_left high.le]
            norm_num
          rw [clamped, round_natCast]
          decide +kernel
        case isFalse notHigh =>
          rw [not_lt] at notLow notHigh
          have clamped : 0 ⊔ 100 ⊓ x.toRat = x.toRat := by
            rw [min_eq_right notHigh, max_eq_right notLow]
          have small := round_clamped_le x.toRat
          rw [clamped] at small ⊢
          rw [roundWord_of_nonneg rfl notLow]
          exact Nat.min_eq_left ((Int.toNat_le.mpr small).trans (by decide))

/-! ## Durations -/

/-- A number, or 0 in place of one that is not above it. -/
def raised : Binary64 → Binary64
  | x@(finite ..) => if 0 < x.toRat then x else zero false
  | infinite negative => if negative then zero false else infinite false
  | nan => zero false

/-- **A duration stays as it is, but is not let below 0.** -/
theorem zero_max_eq_raised (x : Binary64) : (zero false).max x = x.raised := by
  cases x with
  | nan => rfl
  | infinite negative => cases negative <;> rfl
  | finite negative mantissa exponent fits =>
      let x : Binary64 := finite negative mantissa exponent fits
      have above : (zero false).lt x = true ↔ 0 < x.toRat := by rw [lt_iff rfl rfl, toRat_zero]
      rw [Binary64.max, isNaN_zero, if_neg Bool.false_ne_true]
      simp only [x, above]
      rfl

/-- What is not let below 0 is a number, and has no sign. -/
theorem raised_nonneg (x : Binary64) : x.raised.isNegative = false ∧ x.raised.isNaN = false := by
  cases x with
  | nan => exact ⟨rfl, rfl⟩
  | infinite negative => cases negative <;> exact ⟨rfl, rfl⟩
  | finite negative mantissa exponent fits =>
      unfold raised
      dsimp only
      split
      case isTrue positive => exact ⟨isNegative_of_toRat_pos positive, rfl⟩
      case isFalse => exact ⟨rfl, rfl⟩

end Binary64

end StrategyDesk
