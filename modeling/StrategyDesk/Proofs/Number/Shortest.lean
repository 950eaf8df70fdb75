import StrategyDesk.Number.Shortest
import StrategyDesk.Proofs.Number.Rounding

/-!
# The shortest decimal of a number

The digits of the shortest decimal are a point of a decimal grid inside the neighbourhood of the
number, so that the decimal is positive and not above the upper end of the neighbourhood.

## Main Definitions

* `Decimal.value` — the exact value of a decimal
* `Binary64.decimal` — the decimal that a finite number is written as

## Main Statements

* `Binary64.shortest_digits_ne_zero` — the shortest decimal of a positive number is not zero
* `Binary64.value_decimal_le` — it is not above the upper end of the neighbourhood
-/

namespace StrategyDesk

namespace Decimal

/-- The exact value of a decimal. -/
def value (d : Decimal) : ℚ := d.digits * 10 ^ d.exponent

theorem trimFrom_digits_ne_zero (fuel : Nat) :
    ∀ {d : Decimal}, d.digits ≠ 0 → (d.trimFrom fuel).digits ≠ 0 := by
  induction fuel with
  | zero => exact fun positive => positive
  | succ fuel ih =>
      intro d positive
      unfold trimFrom
      split
      · next divides => exact ih (by have := divides.2; show d.digits / 10 ≠ 0; omega)
      · exact positive

/-- Trailing zeros do not change the value. -/
theorem value_trimFrom (fuel : Nat) : ∀ d : Decimal, (d.trimFrom fuel).value = d.value := by
  induction fuel with
  | zero => exact fun _ => rfl
  | succ fuel ih =>
      intro d
      unfold trimFrom
      split
      · next divides =>
        have digits : (d.digits : ℚ) = (d.digits / 10 : ℕ) * 10 := by
          exact_mod_cast (Nat.div_mul_cancel (Nat.dvd_of_mod_eq_zero divides.2)).symm
        rw [ih, value, value, digits, zpow_add_one₀ (by norm_num)]
        ring
      · rfl

end Decimal

namespace Binary64

/-- A grid point that is found lies in the neighbourhood of the number. -/
theorem gridPoint?_bounds {mantissa point : Nat} {exponent k : ℤ}
    (found : gridPoint? mantissa exponent k = some point) :
    let scale := Nat.pow 10 k.toNat * Nat.pow 2 (-(exponent - 2)).toNat
    let den := Nat.pow 10 (-k).toNat * Nat.pow 2 (exponent - 2).toNat
    (neighbourhood mantissa exponent).low * den ≤ point * scale ∧
      point * scale ≤ (neighbourhood mantissa exponent).high * den := by
  intro scale den
  let area := neighbourhood mantissa exponent
  let inside (p : Nat) : Bool :=
    if area.closed then area.low * den ≤ p * scale && p * scale ≤ area.high * den
    else area.low * den < p * scale && p * scale < area.high * den
  -- Whichever of the two points is taken, it passed the test.
  have passed : inside point = true := by
    unfold gridPoint? at found
    simp only at found
    split at found
    · cases found
    · next within _ => exact Option.some.inj found ▸ within
    · next _ within => exact Option.some.inj found ▸ within
    · next within within' =>
      split at found
      · exact Option.some.inj found ▸ within
      · split at found
        · exact Option.some.inj found ▸ within'
        · split at found
          · exact Option.some.inj found ▸ within
          · exact Option.some.inj found ▸ within'
  simp only [inside] at passed
  split at passed <;> simp only [Bool.and_eq_true, decide_eq_true_eq] at passed
  · exact passed
  · exact ⟨passed.1.le, passed.2.le⟩

/-- A grid point next to a positive number is positive. -/
theorem gridPoint?_ne_zero {mantissa : Nat} {exponent k : ℤ} {point : Nat}
    (positive : mantissa ≠ 0) (found : gridPoint? mantissa exponent k = some point) :
    point ≠ 0 := by
  rintro rfl
  have low : 0 < (neighbourhood mantissa exponent).low := by
    unfold neighbourhood
    dsimp only
    split <;> omega
  have den : 0 < Nat.pow 10 (-k).toNat * Nat.pow 2 (exponent - 2).toNat :=
    Nat.mul_pos (Nat.pow_pos (by decide)) (Nat.pow_pos (by decide))
  have apart := (gridPoint?_bounds found).1
  rw [Nat.zero_mul] at apart
  exact absurd (Nat.mul_pos low den) (Nat.not_lt.mpr apart)

/-- A grid point next to a number lies at most half a unit above it. -/
theorem gridPoint?_le {mantissa : Nat} {exponent k : ℤ} {point : Nat}
    (found : gridPoint? mantissa exponent k = some point) :
    (point : ℚ) * 10 ^ k ≤ (mantissa + 1 / 2) * 2 ^ exponent := by
  have bound := (gridPoint?_bounds found).2
  have tens : (10 : ℚ) ^ k = _ := zpow_eq_div 10 k
  have twos : (2 : ℚ) ^ (exponent - 2) = _ := zpow_eq_div 2 (exponent - 2)
  have quarter : (2 : ℚ) ^ exponent = 2 ^ (exponent - 2) * 4 := by
    rw [zpow_sub₀ two_ne_zero]
    norm_num
  have den : (0 : ℚ) < (Nat.pow 10 (-k).toNat : ℕ) := by
    exact_mod_cast Nat.pow_pos (by decide)
  have den' : (0 : ℚ) < (Nat.pow 2 (-(exponent - 2)).toNat : ℕ) := by
    exact_mod_cast Nat.pow_pos (by decide)
  have cast :
      (point : ℚ) * ((Nat.pow 10 k.toNat : ℕ) * (Nat.pow 2 (-(exponent - 2)).toNat : ℕ)) ≤
        (4 * mantissa + 2) *
          ((Nat.pow 10 (-k).toNat : ℕ) * (Nat.pow 2 (exponent - 2).toNat : ℕ)) := by
    exact_mod_cast bound
  rw [quarter, tens, twos]
  generalize ((Nat.pow 10 k.toNat : ℕ) : ℚ) = tens at cast ⊢
  generalize ((Nat.pow 10 (-k).toNat : ℕ) : ℚ) = tenths at den cast ⊢
  generalize ((Nat.pow 2 (exponent - 2).toNat : ℕ) : ℚ) = twos at cast ⊢
  generalize ((Nat.pow 2 (-(exponent - 2)).toNat : ℕ) : ℚ) = halves at den' cast ⊢
  calc (point : ℚ) * (tens / tenths)
      = point * (tens * halves) / (tenths * halves) := by field_simp
    _ ≤ (4 * mantissa + 2) * (tenths * twos) / (tenths * halves) := by gcongr
    _ = (mantissa + 1 / 2) * (twos / halves * 4) := by
      field_simp
      ring

/-- The shortest decimal of a positive number has digits other than zero. -/
theorem shortest_digits_ne_zero {mantissa : Nat} (positive : mantissa ≠ 0) (exponent : ℤ) :
    (shortest mantissa exponent).digits ≠ 0 := by
  have each : ∀ (fuel : Nat) (k : ℤ), (shortestFrom mantissa exponent fuel k).digits ≠ 0 := by
    intro fuel
    induction fuel with
    | zero => exact fun _ => positive
    | succ fuel ih =>
        intro k
        unfold shortestFrom
        split
        · next digits found =>
            exact Decimal.trimFrom_digits_ne_zero _ (gridPoint?_ne_zero positive found)
        · exact ih (k - 1)
  exact each _ _

/-- From any grid on, a decimal lies at most half a unit above the number, or it is the mantissa on
the last grid. -/
theorem value_shortestFrom_le {mantissa : Nat} {exponent : ℤ} {bound : ℚ}
    (upper : (mantissa + 1 / 2) * 2 ^ exponent ≤ bound) (fuel : Nat) :
    ∀ {k : ℤ}, mantissa * 10 ^ (k - fuel) ≤ bound →
      (shortestFrom mantissa exponent fuel k).value ≤ bound := by
  induction fuel with
  | zero =>
      intro k last
      rwa [Nat.cast_zero, sub_zero] at last
  | succ fuel ih =>
      intro k last
      unfold shortestFrom
      split
      · next digits found =>
        rw [Decimal.trim, Decimal.value_trimFrom]
        exact le_trans (gridPoint?_le found) upper
      · refine ih (le_trans (le_of_eq ?_) last)
        push_cast
        congr 2
        ring

/-- **The shortest decimal of a number is not above the upper end of the neighbourhood**, unless
that lies far below the largest numbers. -/
theorem value_shortest_le {mantissa : Nat} {exponent : ℤ} (fits : Fits mantissa exponent)
    {bound : ℚ} (upper : (mantissa + 1 / 2) * 2 ^ exponent ≤ bound)
    (large : 2 ^ 53 * 10 ^ (288 : ℤ) ≤ bound) : (shortest mantissa exponent).value ≤ bound := by
  obtain ⟨short, -, low, -⟩ := fits
  have bits : mantissa.log2 < 53 := by
    by_cases zero : mantissa = 0
    · rw [zero]
      decide
    · exact (Nat.log2_lt zero).mpr short
  refine value_shortestFrom_le upper 22 (le_trans ?_ large)
  have mantissa' : (mantissa : ℚ) ≤ 2 ^ 53 := by exact_mod_cast short.le
  -- The last grid is reached when 22 of them have no point in the neighbourhood.
  have power : (10 : ℚ) ^ (((mantissa.log2 : ℤ) + exponent + 1) * 30103 / 100000 + 2 - (22 : ℕ)) ≤
      10 ^ (288 : ℤ) := zpow_le_zpow_right₀ (by norm_num) (by omega)
  exact mul_le_mul mantissa' power (by positivity) (by norm_num)

/-- The decimal that a finite number is written as. -/
def decimal (mantissa : Nat) (exponent : ℤ) : Decimal :=
  if mantissa = 0 then ⟨0, 0⟩ else shortest mantissa exponent

theorem exponent_decimal_of_zero {mantissa : Nat} (exponent : ℤ)
    (zero : (decimal mantissa exponent).digits = 0) : (decimal mantissa exponent).exponent = 0 := by
  unfold decimal at zero ⊢
  split at zero
  · next none => rw [if_pos none]
  · next positive => exact absurd zero (shortest_digits_ne_zero positive exponent)

/-- The decimal of a number is not above the upper end of the neighbourhood, unless that lies far
below the largest numbers. -/
theorem value_decimal_le {mantissa : Nat} {exponent : ℤ} (fits : Fits mantissa exponent)
    {bound : ℚ} (upper : (mantissa + 1 / 2) * 2 ^ exponent ≤ bound)
    (large : 2 ^ 53 * 10 ^ (288 : ℤ) ≤ bound) : (decimal mantissa exponent).value ≤ bound := by
  unfold decimal
  split
  · have zero : (Decimal.mk 0 0).value = 0 := by norm_num [Decimal.value]
    rw [zero]
    exact le_trans (by positivity) upper
  · exact value_shortest_le fits upper large

end Binary64

end StrategyDesk
