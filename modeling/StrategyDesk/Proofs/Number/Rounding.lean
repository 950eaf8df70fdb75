import Mathlib.Algebra.Order.Field.Power
import Mathlib.Tactic.FieldSimp
import Mathlib.Tactic.GCongr
import Mathlib.Tactic.Linarith
import Mathlib.Tactic.NormNum
import Mathlib.Tactic.Positivity
import Mathlib.Tactic.Ring
import StrategyDesk.Number.Binary64

/-!
# Rounding to binary64

How far the number nearest to a quotient may lie above it, and below which quotients it is finite.
From this follows when products and quotients of finite numbers are finite.

## Main Definitions

* `Binary64.magnitude` — the exact magnitude of a finite number
* `Binary64.overflow` — half way from the largest finite number to the next power of two

## Main Statements

* `Binary64.floorLog2_spec` — between which powers of two a quotient lies
* `Binary64.exists_ofRatio_eq_finite` — the number nearest to a quotient below the overflow
* `Binary64.magnitude_ofRatio_bounds` — how far a quotient is rounded up at most
* `Binary64.isFinite_mul`, `Binary64.isFinite_div` — products and quotients that are finite
-/

namespace StrategyDesk

/-! ## Powers and rounded quotients -/

/-- A power with a whole exponent is a quotient of powers of which one is trivial. -/
theorem zpow_eq_div (base : Nat) [NeZero base] (k : ℤ) :
    (base : ℚ) ^ k = (Nat.pow base k.toNat : ℕ) / (Nat.pow base (-k).toNat : ℕ) := by
  have positive : (base : ℚ) ≠ 0 := NeZero.ne _
  push_cast [Nat.pow_eq]
  rw [← zpow_natCast, ← zpow_natCast, ← zpow_sub₀ positive]
  congr 1
  omega

/-- A rounded quotient is the one below, at most half a step up, or the one above. -/
theorem roundQuotient_cases (tie : Tie) (num den : Nat) :
    (roundQuotient tie num den = num / den ∧ 2 * (num % den) ≤ den) ∨
      (roundQuotient tie num den = num / den + 1 ∧ den ≤ 2 * (num % den)) := by
  have parity := Nat.mod_two_eq_zero_or_one (num / den)
  unfold roundQuotient
  dsimp only
  split
  · exact Or.inl ⟨rfl, by omega⟩
  · split
    · exact Or.inr ⟨rfl, by omega⟩
    · cases tie with
      | up => exact Or.inr ⟨rfl, by omega⟩
      | toEven =>
          rcases parity with even | odd
          · exact Or.inl ⟨by dsimp only; omega, by omega⟩
          · exact Or.inr ⟨by dsimp only; omega, by omega⟩

/-- **A rounded quotient differs from the quotient by a half at most.** -/
theorem abs_roundQuotient_sub_le (tie : Tie) (num : Nat) {den : Nat} (positive : 0 < den) :
    |(roundQuotient tie num den : ℚ) - num / den| ≤ 1 / 2 := by
  have positive' : (0 : ℚ) < den := by exact_mod_cast positive
  have split : (num : ℚ) = den * (num / den : ℕ) + (num % den : ℕ) := by
    exact_mod_cast (Nat.div_add_mod num den).symm
  have quotient : (num : ℚ) / den = (num / den : ℕ) + (num % den : ℕ) / den := by
    rw [div_eq_iff positive'.ne', add_mul, div_mul_cancel₀ _ positive'.ne', split]
    ring
  have small : ((num % den : ℕ) : ℚ) / den ≤ 1 := by
    rw [div_le_one positive']
    exact_mod_cast (Nat.mod_lt num positive).le
  have nonneg : (0 : ℚ) ≤ ((num % den : ℕ) : ℚ) / den := by positivity
  rw [quotient]
  rcases roundQuotient_cases tie num den with ⟨below, half⟩ | ⟨above, half⟩
  · have half' : ((num % den : ℕ) : ℚ) / den ≤ 1 / 2 := by
      rw [div_le_iff₀ positive']
      have cast : (2 : ℚ) * (num % den : ℕ) ≤ den := by exact_mod_cast half
      linarith
    rw [below, abs_le]
    constructor <;> linarith
  · have half' : 1 / 2 ≤ ((num % den : ℕ) : ℚ) / den := by
      rw [le_div_iff₀ positive']
      have cast : (den : ℚ) ≤ 2 * (num % den : ℕ) := by exact_mod_cast half
      linarith
    rw [above, abs_le]
    push_cast
    constructor <;> linarith

namespace Binary64

/-! ## Magnitudes -/

/-- The exact magnitude of a finite number; the others have none and read as zero. -/
def magnitude : Binary64 → ℚ
  | finite _ mantissa exponent _ => mantissa * 2 ^ exponent
  | _ => 0

/-- Half way from the largest finite number to the next power of two. What lies below is rounded to
a finite number. -/
def overflow : ℚ := (2 ^ 53 - 1 / 2) * 2 ^ (971 : ℤ)

theorem magnitude_nonneg (x : Binary64) : 0 ≤ x.magnitude := by
  cases x with
  | finite _ mantissa exponent _ => exact mul_nonneg (Nat.cast_nonneg _) (by positivity)
  | infinite _ | nan => exact le_refl _

/-- No number has a magnitude that is rounded to an infinite one. -/
theorem magnitude_lt_overflow (x : Binary64) : x.magnitude < overflow := by
  cases x with
  | infinite _ | nan => norm_num [magnitude, overflow]
  | finite _ mantissa exponent fits =>
      obtain ⟨short, -, low, -⟩ := fits
      have mantissa' : (mantissa : ℚ) ≤ 2 ^ 53 - 1 := by
        have cast : mantissa + 1 ≤ 2 ^ 53 := short
        have : (mantissa : ℚ) + 1 ≤ 2 ^ 53 := by exact_mod_cast cast
        linarith
      have power : (2 : ℚ) ^ exponent ≤ 2 ^ (971 : ℤ) := zpow_le_zpow_right₀ one_le_two low
      have unit : (0 : ℚ) < 2 ^ (971 : ℤ) := by positivity
      calc (mantissa : ℚ) * 2 ^ exponent
          ≤ (2 ^ 53 - 1) * 2 ^ (971 : ℤ) :=
            mul_le_mul mantissa' power (by positivity) (by norm_num)
        _ < overflow := mul_lt_mul_of_pos_right (by norm_num) unit

/-- The exact quotient of a finite number is its magnitude. -/
theorem ratio?_of_isFinite {x : Binary64} (finite : x.isFinite = true) :
    ∃ num den, x.ratio? = some (x.isNegative, num, den) ∧ 0 < den ∧
      (num : ℚ) / den = x.magnitude := by
  cases x with
  | infinite _ | nan => cases finite
  | finite negative mantissa exponent _ =>
      refine ⟨_, _, rfl, Nat.pow_pos (by decide), ?_⟩
      rw [magnitude, Nat.cast_mul, mul_div_assoc]
      congr 1
      exact (zpow_eq_div 2 exponent).symm

/-! ## The nearest number -/

section Nearest

variable {num den : Nat}

/-- **A positive quotient lies between the power of two of its logarithm and the next one.** -/
theorem floorLog2_spec (positive : 0 < num) (positive' : 0 < den) :
    (2 : ℚ) ^ floorLog2 num den ≤ num / den ∧ (num : ℚ) / den < 2 ^ (floorLog2 num den + 1) := by
  have denominator : (0 : ℚ) < den := by exact_mod_cast positive'
  have num_low : (2 : ℚ) ^ num.log2 ≤ num := by exact_mod_cast Nat.log2_self_le positive.ne'
  have num_high : (num : ℚ) < 2 ^ (num.log2 + 1) := by exact_mod_cast @Nat.lt_log2_self num
  have den_low : (2 : ℚ) ^ den.log2 ≤ den := by exact_mod_cast Nat.log2_self_le positive'.ne'
  have den_high : (den : ℚ) < 2 ^ (den.log2 + 1) := by exact_mod_cast @Nat.lt_log2_self den
  let estimate : ℤ := (num.log2 : ℤ) - den.log2
  -- The difference of the logarithms is too large by one at most.
  have low : (2 : ℚ) ^ (estimate - 1) ≤ num / den := by
    rw [le_div_iff₀ denominator]
    calc (2 : ℚ) ^ (estimate - 1) * den
        ≤ 2 ^ (estimate - 1) * 2 ^ (den.log2 + 1) := by gcongr
      _ = 2 ^ num.log2 := by
          rw [← zpow_natCast, ← zpow_natCast, ← zpow_add₀ two_ne_zero]
          congr 1
          push_cast
          omega
      _ ≤ num := num_low
  have high : (num : ℚ) / den < 2 ^ (estimate + 1) := by
    rw [div_lt_iff₀ denominator]
    calc (num : ℚ)
        < 2 ^ (num.log2 + 1) := num_high
      _ = 2 ^ (estimate + 1) * 2 ^ den.log2 := by
          rw [← zpow_natCast, ← zpow_natCast, ← zpow_add₀ two_ne_zero]
          congr 1
          push_cast
          omega
      _ ≤ 2 ^ (estimate + 1) * den := by gcongr
  have test : num * Nat.pow 2 (-estimate).toNat < den * Nat.pow 2 estimate.toNat ↔
      (num : ℚ) / den < 2 ^ estimate := by
    have power : (0 : ℚ) < (Nat.pow 2 (-estimate).toNat : ℕ) := by
      exact_mod_cast Nat.pow_pos (n := (-estimate).toNat) (by decide : 0 < 2)
    have exact : (2 : ℚ) ^ estimate = _ := zpow_eq_div 2 estimate
    rw [exact, div_lt_div_iff₀ denominator power, mul_comm _ (den : ℚ)]
    exact_mod_cast Iff.rfl
  have value : floorLog2 num den =
      if num * Nat.pow 2 (-estimate).toNat < den * Nat.pow 2 estimate.toNat then estimate - 1
      else estimate := rfl
  rw [value]
  split
  · next below => exact ⟨low, by simpa using test.mp below⟩
  · next above => exact ⟨not_lt.mp fun below => above (test.mpr below), high⟩

/-- Where the mantissa of the nearest number is searched for: at an exponent at which the quotient
has 53 bits, or at the lowest one. -/
theorem exists_ofRatio (positive : 0 < num) (positive' : 0 < den) (negative : Bool) :
    ∃ (mantissa : Nat) (exponent : ℤ),
      ofRatio negative num den =
        (if mantissa = Nat.pow 2 53 then ofParts negative (Nat.pow 2 52) (exponent + 1)
          else ofParts negative mantissa exponent) ∧
      |(mantissa : ℚ) - num / den / 2 ^ exponent| ≤ 1 / 2 ∧
      (num : ℚ) / den / 2 ^ exponent < 2 ^ 53 ∧ -1074 ≤ exponent ∧
      (2 ^ 52 ≤ (num : ℚ) / den / 2 ^ exponent ∨ exponent = -1074) := by
  let exponent : ℤ := Max.max (floorLog2 num den - 52) (-1074)
  let mantissa := roundQuotient .toEven (num * Nat.pow 2 (-exponent).toNat)
    (den * Nat.pow 2 exponent.toNat)
  obtain ⟨low, high⟩ := floorLog2_spec positive positive'
  have power : (0 : ℚ) < 2 ^ exponent := by positivity
  refine ⟨mantissa, exponent, if_neg positive.ne', ?_, ?_, by omega, ?_⟩
  · have scaled : 0 < den * Nat.pow 2 exponent.toNat :=
      Nat.mul_pos positive' (Nat.pow_pos (by decide))
    have nearest := abs_roundQuotient_sub_le .toEven (num * Nat.pow 2 (-exponent).toNat) scaled
    have quotient : ((num * Nat.pow 2 (-exponent).toNat : ℕ) : ℚ) /
        (den * Nat.pow 2 exponent.toNat : ℕ) = num / den / 2 ^ exponent := by
      have exact : (2 : ℚ) ^ exponent = _ := zpow_eq_div 2 exponent
      rw [exact, div_div_eq_mul_div, Nat.cast_mul, Nat.cast_mul, div_mul_eq_mul_div, div_div]
    rwa [quotient] at nearest
  · rw [div_lt_iff₀ power]
    calc (num : ℚ) / den
        < 2 ^ (floorLog2 num den + 1) := high
      _ ≤ 2 ^ (53 + exponent) := zpow_le_zpow_right₀ one_le_two (by omega)
      _ = 2 ^ 53 * 2 ^ exponent := zpow_add₀ two_ne_zero 53 exponent
  · by_cases lowest : exponent = -1074
    · exact Or.inr lowest
    · refine Or.inl ?_
      have normal : floorLog2 num den = 52 + exponent := by omega
      rw [le_div_iff₀ power]
      calc (2 : ℚ) ^ 52 * 2 ^ exponent
          = 2 ^ (52 + exponent) := (zpow_add₀ two_ne_zero 52 exponent).symm
        _ ≤ num / den := normal ▸ low

/-- An exponent at which a quotient below the overflow is large is not too high. -/
theorem exponent_lt {quotient large : ℚ} {exponent highest : ℤ} (small : quotient < overflow)
    (nonneg : 0 ≤ large) (above : large ≤ quotient / 2 ^ exponent)
    (high : overflow ≤ large * 2 ^ highest) : exponent < highest := by
  by_contra higher
  have power : (2 : ℚ) ^ highest ≤ 2 ^ exponent := zpow_le_zpow_right₀ one_le_two (by omega)
  rw [le_div_iff₀ (by positivity)] at above
  have scaled := mul_le_mul_of_nonneg_left power nonneg
  linarith

/-- **The number nearest to a quotient below the overflow is finite**, and differs from the quotient
by half a unit in the last place at most. -/
theorem exists_ofRatio_eq_finite (positive : 0 < num) (positive' : 0 < den)
    (small : (num : ℚ) / den < overflow) (negative : Bool) :
    ∃ mantissa exponent fits, ofRatio negative num den = finite negative mantissa exponent fits ∧
      |(mantissa : ℚ) * 2 ^ exponent - num / den| ≤ 2 ^ exponent / 2 ∧
      (num : ℚ) / den < 2 ^ 53 * 2 ^ exponent := by
  obtain ⟨mantissa, exponent, number, nearest, short, least, normal⟩ :=
    exists_ofRatio positive positive' negative
  generalize (num : ℚ) / den = quotient at small nearest short normal ⊢
  have power : (0 : ℚ) < 2 ^ exponent := by positivity
  obtain ⟨above, below⟩ := abs_le.mp nearest
  have close : |(mantissa : ℚ) * 2 ^ exponent - quotient| ≤ 2 ^ exponent / 2 := by
    have scaled := mul_le_mul_of_nonneg_right nearest power.le
    rwa [← abs_of_pos power, ← abs_mul, abs_of_pos power, sub_mul, div_mul_cancel₀ _ power.ne',
      one_div_mul_eq_div] at scaled
  have high := (div_lt_iff₀ power).mp short
  rw [number]
  split
  · next carry =>
    have mantissa' : (mantissa : ℚ) = 2 ^ 53 := by exact_mod_cast carry
    have low : exponent < 971 := exponent_lt small (by norm_num) (by linarith) le_rfl
    have fits : Fits (Nat.pow 2 52) (exponent + 1) := ⟨by decide, by omega, by omega, Or.inl le_rfl⟩
    have half : ((Nat.pow 2 52 : ℕ) : ℚ) * 2 ^ (exponent + 1) = mantissa * 2 ^ exponent := by
      have cast : ((Nat.pow 2 52 : ℕ) : ℚ) = 2 ^ 52 := by exact_mod_cast rfl
      rw [mantissa', cast, zpow_add_one₀ two_ne_zero]
      ring
    refine ⟨_, _, fits, dif_pos fits, ?_, ?_⟩
    · rw [half, zpow_add_one₀ two_ne_zero]
      linarith
    · rw [zpow_add_one₀ two_ne_zero]
      linarith
  · next noCarry =>
    have most : mantissa < 2 ^ 53 + 1 := by
      have cast : (mantissa : ℚ) < (2 ^ 53 + 1 : ℕ) := by
        push_cast
        linarith
      exact_mod_cast cast
    have other : mantissa ≠ 2 ^ 53 := noCarry
    have short' : mantissa < Nat.pow 2 53 := Nat.lt_of_le_of_ne (Nat.lt_succ_iff.mp most) other
    have fits : Fits mantissa exponent := by
      rcases normal with large | lowest
      · have low : exponent < 972 := by
          refine exponent_lt small (by norm_num) large ?_
          rw [overflow, show (972 : ℤ) = 1 + 971 from rfl, zpow_add₀ two_ne_zero, ← mul_assoc]
          exact mul_le_mul_of_nonneg_right (by norm_num) (by positivity)
        have cast : ((2 ^ 52 : ℕ) : ℚ) < (mantissa + 1 : ℕ) := by
          push_cast
          linarith
        have large' : 2 ^ 52 < mantissa + 1 := by exact_mod_cast cast
        exact ⟨short', least, by omega, Or.inl (Nat.lt_succ_iff.mp large')⟩
      · exact ⟨short', least, by omega, Or.inr lowest⟩
    exact ⟨_, _, fits, dif_pos fits, close, high⟩

theorem isFinite_ofRatio (positive : 0 < den) (small : (num : ℚ) / den < overflow)
    (negative : Bool) : (ofRatio negative num den).isFinite = true := by
  rcases Nat.eq_zero_or_pos num with zero | positive'
  · subst zero
    rfl
  · obtain ⟨_, _, _, number, -⟩ := exists_ofRatio_eq_finite positive' positive small negative
    rw [number]
    rfl

/-- A quotient that is not below one is neither rounded below one nor up by more than a unit in the
last place. -/
theorem magnitude_ofRatio_bounds (positive : 0 < den) (large : 1 ≤ (num : ℚ) / den)
    (small : (num : ℚ) / den < overflow) (negative : Bool) :
    1 ≤ (ofRatio negative num den).magnitude ∧
      (ofRatio negative num den).magnitude ≤ num / den * (1 + 1 / 2 ^ 52) := by
  have positive' : 0 < num := by
    refine Nat.pos_of_ne_zero fun zero => ?_
    rw [zero] at large
    norm_num at large
  obtain ⟨mantissa, exponent, fits, number, close, high⟩ :=
    exists_ofRatio_eq_finite positive' positive small negative
  generalize (num : ℚ) / den = quotient at large small close high ⊢
  rw [number, magnitude]
  have power : (0 : ℚ) < 2 ^ exponent := by positivity
  obtain ⟨above, below⟩ := abs_le.mp close
  -- A quotient with so many bits before the last place is not a tiny one.
  have notTiny : -53 < exponent := by
    by_contra tiny
    have tiny' : (2 : ℚ) ^ (53 + exponent) ≤ 2 ^ (0 : ℤ) :=
      zpow_le_zpow_right₀ one_le_two (by omega)
    rw [zpow_add₀ two_ne_zero, zpow_zero] at tiny'
    have reach : (2 : ℚ) ^ (53 : ℤ) * 2 ^ exponent = 2 ^ 53 * 2 ^ exponent := rfl
    linarith
  have normal : Nat.pow 2 52 ≤ mantissa := fits.2.2.2.resolve_right (by omega)
  have mantissa' : (2 : ℚ) ^ 52 ≤ mantissa := by exact_mod_cast normal
  have unit := mul_le_mul_of_nonneg_right mantissa' power.le
  constructor
  · calc (1 : ℚ) = 2 ^ (0 : ℤ) := (zpow_zero 2).symm
      _ ≤ 2 ^ (52 + exponent) := zpow_le_zpow_right₀ one_le_two (by omega)
      _ = 2 ^ 52 * 2 ^ exponent := zpow_add₀ two_ne_zero 52 exponent
      _ ≤ mantissa * 2 ^ exponent := unit
  · linarith

end Nearest

/-! ## Products and quotients -/

section Arithmetic

variable {x y : Binary64}

/-- The product of finite numbers is the number nearest to the product of their magnitudes. -/
theorem exists_mul (finite : x.isFinite = true) (finite' : y.isFinite = true) :
    ∃ num den, x.mul y = ofRatio (x.isNegative != y.isNegative) num den ∧ 0 < den ∧
      (num : ℚ) / den = x.magnitude * y.magnitude := by
  obtain ⟨num, den, ratio, positive, value⟩ := ratio?_of_isFinite finite
  obtain ⟨num', den', ratio', positive', value'⟩ := ratio?_of_isFinite finite'
  refine ⟨num * num', den * den', ?_, Nat.mul_pos positive positive', ?_⟩
  · cases x with
    | infinite _ | nan => cases finite
    | finite _ mantissa _ _ =>
        cases y with
        | infinite _ | nan => cases finite'
        | finite _ mantissa' _ _ =>
            cases ratio
            cases ratio'
            cases mantissa <;> cases mantissa' <;> rfl
  · push_cast
    rw [← value, ← value', mul_div_mul_comm]

/-- The quotient of finite numbers is the number nearest to the quotient of their magnitudes. -/
theorem exists_div (finite : x.isFinite = true) (finite' : y.isFinite = true)
    (nonzero : y.magnitude ≠ 0) :
    ∃ num den, x.div y = ofRatio (x.isNegative != y.isNegative) num den ∧ 0 < den ∧
      (num : ℚ) / den = x.magnitude / y.magnitude := by
  obtain ⟨num, den, ratio, positive, value⟩ := ratio?_of_isFinite finite
  obtain ⟨num', den', ratio', positive', value'⟩ := ratio?_of_isFinite finite'
  have positive'' : 0 < num' := by
    refine Nat.pos_of_ne_zero fun zero => nonzero ?_
    rw [← value', zero, Nat.cast_zero, zero_div]
  refine ⟨num * den', den * num', ?_, Nat.mul_pos positive positive'', ?_⟩
  · cases x with
    | infinite _ | nan => cases finite
    | finite _ mantissa _ _ =>
        cases y with
        | infinite _ | nan => cases finite'
        | finite _ mantissa' _ _ =>
            cases ratio
            cases ratio'
            cases mantissa' with
            | zero => exact absurd (by simp [magnitude]) nonzero
            | succ _ => cases mantissa <;> rfl
  · push_cast
    rw [← value, ← value', div_div_div_eq]

/-- A product of finite numbers is finite if its magnitude is below the overflow. -/
theorem isFinite_mul (finite : x.isFinite = true) (finite' : y.isFinite = true)
    (small : x.magnitude * y.magnitude < overflow) : (x.mul y).isFinite = true := by
  obtain ⟨num, den, product, positive, value⟩ := exists_mul finite finite'
  rw [product]
  exact isFinite_ofRatio positive (value ▸ small) _

/-- A finite number divided by one that is not below one is finite. -/
theorem isFinite_div (finite : x.isFinite = true) (finite' : y.isFinite = true)
    (large : 1 ≤ y.magnitude) : (x.div y).isFinite = true := by
  have positive' : 0 < y.magnitude := lt_of_lt_of_le one_pos large
  obtain ⟨num, den, quotient, positive, value⟩ := exists_div finite finite' positive'.ne'
  rw [quotient]
  refine isFinite_ofRatio positive ?_ _
  rw [value]
  exact lt_of_le_of_lt (div_le_self x.magnitude_nonneg large) x.magnitude_lt_overflow

end Arithmetic

end Binary64

end StrategyDesk
