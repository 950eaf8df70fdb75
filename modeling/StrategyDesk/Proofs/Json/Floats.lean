import StrategyDesk.Proofs.Json.Rereading

/-!
# Floats are read as floats

Reading rounds a float twice, so that it need not come back as it was written, and a number near the
largest one could be read as an infinite one, which documents do not have.  It never is.

## Main Definitions

* `Json.safe` — below it, rounding three times leads to no infinite number
* `Binary64.reread` — the number that a number is read back as

## Main Statements

* `Json.isFinite_scaleWord` — a word scaled by a power of ten is finite if both stand for a safe
  value
* `Json.reread_float` — a finite number is read back as a finite number
-/

namespace StrategyDesk

namespace Json

open Binary64

/-- Below this, a number may be rounded three times without becoming infinite. Only the eight
largest numbers are not below it. -/
def safe : ℚ := (2 ^ 53 - 17 / 2) * 2 ^ (971 : ℤ)

theorem zpow_971 : (2 : ℚ) ^ (971 : ℤ) = ((2 ^ 971 : ℕ) : ℚ) := by
  rw [Nat.cast_pow]
  exact zpow_natCast 2 971

/-- A natural number is compared with the safe values without fractions. -/
theorem natCast_le_safe {n : Nat} (small : n ≤ (2 ^ 53 - 9) * 2 ^ 971) : (n : ℚ) ≤ safe := by
  have cast : (n : ℚ) ≤ ((2 ^ 53 - 9 : ℕ) : ℚ) * ((2 ^ 971 : ℕ) : ℚ) := by
    rw [← Nat.cast_mul]
    exact Nat.cast_le.mpr small
  rw [safe, zpow_971]
  exact le_trans cast (mul_le_mul_of_nonneg_right (by norm_num) (Nat.cast_nonneg _))

/-- Beyond the powers of ten that numbers are scaled by, no value is safe. -/
theorem safe_lt_zpow : safe < 10 ^ (309 : ℤ) := by
  have tens : (10 : ℚ) ^ (309 : ℤ) = ((10 ^ 309 : ℕ) : ℚ) := by
    rw [Nat.cast_pow]
    exact zpow_natCast 10 309
  have cast : ((2 ^ 53 : ℕ) : ℚ) * ((2 ^ 971 : ℕ) : ℚ) < ((10 ^ 309 : ℕ) : ℚ) := by
    rw [← Nat.cast_mul]
    exact Nat.cast_lt.mpr (by decide +kernel)
  rw [safe, zpow_971, tens]
  exact lt_of_le_of_lt (mul_le_mul_of_nonneg_right (by norm_num) (Nat.cast_nonneg _)) cast

theorem safe_lt_overflow : safe < overflow :=
  mul_lt_mul_of_pos_right (by norm_num) (by positivity)

/-- Two roundings up stay below the overflow. -/
theorem safe_mul_lt_overflow : safe * ((1 + 1 / 2 ^ 52) * (1 + 1 / 2 ^ 52)) < overflow := by
  rw [safe, overflow, mul_right_comm]
  exact mul_lt_mul_of_pos_right (by norm_num) (by positivity)

/-- A positive number that is not above a safe value is rounded to a finite one that is not below
one, by a unit in the last place at most. -/
theorem ofRatio_natCast {n : Nat} (positive : 0 < n) (small : (n : ℚ) ≤ safe) (negative : Bool) :
    (ofRatio negative n 1).isFinite = true ∧ 1 ≤ (ofRatio negative n 1).magnitude ∧
      (ofRatio negative n 1).magnitude ≤ n * (1 + 1 / 2 ^ 52) := by
  have whole : (n : ℚ) / (1 : ℕ) = n := by rw [Nat.cast_one, div_one]
  have small' : (n : ℚ) / (1 : ℕ) < overflow := by
    rw [whole]
    exact lt_of_le_of_lt small safe_lt_overflow
  have large : 1 ≤ (n : ℚ) / (1 : ℕ) := by
    rw [whole]
    exact_mod_cast positive
  have bounds := magnitude_ofRatio_bounds Nat.one_pos large small' negative
  rw [whole] at bounds
  exact ⟨isFinite_ofRatio Nat.one_pos small' negative, bounds⟩

theorem powerOfTen_bounds {k : Nat} (low : k ≤ 308) :
    (powerOfTen k).isFinite = true ∧ 1 ≤ (powerOfTen k).magnitude ∧
      (powerOfTen k).magnitude ≤ 10 ^ k * (1 + 1 / 2 ^ 52) := by
  have power : 10 ^ k ≤ (2 ^ 53 - 9) * 2 ^ 971 :=
    le_trans (Nat.pow_le_pow_right (by decide) low) (by decide +kernel)
  have bounds := ofRatio_natCast (Nat.pow_pos (by decide)) (natCast_le_safe power) false
  rwa [Nat.cast_pow] at bounds

/-- **A word that is scaled by a power of ten is finite** if the two stand for a safe value. -/
theorem isFinite_scaleWord {word : Nat} {power : Int} (fits : word < wordSize 64)
    (small : (word : ℚ) * 10 ^ power ≤ safe) (negative : Bool) :
    (scaleWord negative word power).isFinite = true := by
  have word' : (word : ℚ) ≤ safe :=
    natCast_le_safe (le_trans fits.le (by decide +kernel))
  unfold scaleWord
  dsimp only
  split
  · next zero =>
    rw [zero]
    rfl
  next positive =>
  have positive : 0 < word := Nat.pos_of_ne_zero positive
  obtain ⟨finite, -, most⟩ := ofRatio_natCast positive word' negative
  split
  · next high =>
    -- The word is at least one, and so large a power is not safe.
    have one : (1 : ℚ) ≤ word := by exact_mod_cast positive
    have power : (10 : ℚ) ^ (309 : ℤ) ≤ 10 ^ power := zpow_le_zpow_right₀ (by norm_num) high
    have scaled := le_trans power (le_mul_of_one_le_left (by positivity) one)
    exact absurd (lt_of_le_of_lt (le_trans scaled small) safe_lt_zpow) (lt_irrefl _)
  · next low =>
    split
    · next whole =>
      obtain ⟨finite', -, most'⟩ := @powerOfTen_bounds power.toNat (by omega)
      refine isFinite_mul finite finite' (lt_of_le_of_lt ?_ safe_mul_lt_overflow)
      have exact : (10 : ℚ) ^ power = 10 ^ power.toNat := by
        rw [← zpow_natCast, Int.toNat_of_nonneg whole]
      rw [exact] at small
      calc (ofRatio negative word 1).magnitude * (powerOfTen power.toNat).magnitude
          ≤ (word * (1 + 1 / 2 ^ 52)) * (10 ^ power.toNat * (1 + 1 / 2 ^ 52)) :=
            mul_le_mul most most' (magnitude_nonneg _) (by positivity)
        _ = word * 10 ^ power.toNat * ((1 + 1 / 2 ^ 52) * (1 + 1 / 2 ^ 52)) := by ring
        _ ≤ safe * ((1 + 1 / 2 ^ 52) * (1 + 1 / 2 ^ 52)) := by gcongr
    · split
      · obtain ⟨finite', large, -⟩ := @powerOfTen_bounds (-power).toNat (by omega)
        exact isFinite_div finite finite' large
      · split
        · obtain ⟨finite', large, -⟩ := @powerOfTen_bounds 308 le_rfl
          obtain ⟨finite'', large', -⟩ := @powerOfTen_bounds (-power - 308).toNat (by omega)
          exact isFinite_div (isFinite_div finite finite' large) finite'' large'
        · rfl

/-! ## The numbers that are read -/

/-- The number of a document that is one with a fraction or an exponent. -/
def float? : Json → Option Binary64
  | .number (.float x) => some x
  | _ => none

/-- The eight largest numbers are read as finite ones, by evaluation. -/
theorem reread_largest : ∀ negative : Bool, ∀ below < 8,
    (((Json.number (.float (ofParts negative (2 ^ 53 - 1 - below) 971))).reread.float?).any
      Binary64.isFinite) = true := by
  decide +kernel

/-- The decimal of a number that is none of the eight largest ones is safe. -/
theorem value_decimal_le_safe {mantissa : Nat} {exponent : Int} (fits : Fits mantissa exponent)
    (smaller : mantissa + 9 ≤ 2 ^ 53 ∨ exponent ≤ 970) :
    (decimal mantissa exponent).value ≤ safe := by
  refine value_decimal_le fits ?_ ?_
  · rcases smaller with few | low
    · have mantissa' : (mantissa : ℚ) + 9 ≤ 2 ^ 53 := by exact_mod_cast few
      have power : (2 : ℚ) ^ exponent ≤ 2 ^ (971 : ℤ) :=
        zpow_le_zpow_right₀ one_le_two fits.2.2.1
      exact mul_le_mul (by linarith) power (by positivity) (by norm_num)
    · have mantissa' : (mantissa : ℚ) + 1 ≤ 2 ^ 53 := by exact_mod_cast fits.1
      have power : (2 : ℚ) ^ exponent ≤ 2 ^ (970 : ℤ) := zpow_le_zpow_right₀ one_le_two low
      have next : (2 : ℚ) ^ (971 : ℤ) = 2 ^ (970 : ℤ) * 2 := zpow_add_one₀ two_ne_zero 970
      have unit : (0 : ℚ) < 2 ^ (970 : ℤ) := by positivity
      calc ((mantissa : ℚ) + 1 / 2) * 2 ^ exponent
          ≤ 2 ^ 53 * 2 ^ (970 : ℤ) := mul_le_mul (by linarith) power (by positivity) (by norm_num)
        _ ≤ (2 ^ 53 - 17 / 2) * (2 ^ (970 : ℤ) * 2) := by
          generalize (2 : ℚ) ^ (970 : ℤ) = unit at unit ⊢
          linarith
        _ = safe := by rw [safe, next]
  · have tens : (2 : ℚ) ^ 53 * 10 ^ (288 : ℤ) = ((2 ^ 53 * 10 ^ 288 : ℕ) : ℚ) := by
      rw [Nat.cast_mul, Nat.cast_pow, Nat.cast_pow]
      exact congrArg _ (zpow_natCast 10 288)
    rw [tens]
    exact natCast_le_safe (by decide +kernel)

/-- A small power of ten scales a word to a safe value. -/
theorem mul_zpow_le_safe {word : Nat} {power : Int} (fits : word < wordSize 64)
    (low : power ≤ 16) : (word : ℚ) * 10 ^ power ≤ safe := by
  have power' : (10 : ℚ) ^ power ≤ ((10 ^ 16 : ℕ) : ℚ) := by
    rw [Nat.cast_pow]
    exact le_trans (zpow_le_zpow_right₀ (by norm_num) low) (le_of_eq (zpow_natCast 10 16))
  have word' : (word : ℚ) ≤ ((wordSize 64 : ℕ) : ℚ) := Nat.cast_le.mpr fits.le
  have product := mul_le_mul word' power' (by positivity) (Nat.cast_nonneg _)
  rw [← Nat.cast_mul] at product
  exact le_trans product (natCast_le_safe (by decide +kernel))

/-- **A finite number is read from its text as a finite number.** -/
theorem exists_reread_float {x : Binary64} (finite : x.isFinite = true) :
    ∃ y, (Json.number (.float x)).reread = .number (.float y) ∧ y.isFinite = true := by
  cases x with
  | infinite _ | nan => cases finite
  | finite negative mantissa exponent fits =>
      by_cases largest : 2 ^ 53 < mantissa + 9 ∧ exponent = 971
      · -- These are few enough to be read one by one.
        obtain ⟨many, rfl⟩ := largest
        have short : mantissa < 2 ^ 53 := fits.1
        have back : 2 ^ 53 - 1 - (2 ^ 53 - 1 - mantissa) = mantissa := by omega
        have found := reread_largest negative (2 ^ 53 - 1 - mantissa) (by omega)
        rw [back, ofParts, dif_pos fits, Option.any_eq_true] at found
        obtain ⟨y, float, finite'⟩ := found
        refine ⟨y, ?_, finite'⟩
        cases document : (Json.number (.float (.finite negative mantissa 971 fits))).reread with
        | number n =>
            rw [document] at float
            cases n with
            | float z => rw [Option.some.inj float]
            | integer _ => cases float
        | unreadable | null | bool _ | string _ | array _ | object _ =>
            rw [document] at float
            cases float
      · have smaller : mantissa + 9 ≤ 2 ^ 53 ∨ exponent ≤ 970 := by
          have low := fits.2.2.1
          omega
        obtain ⟨word, power, reads, small, bounds⟩ := exists_isReadAs_float negative fits
        have safe' : (word : ℚ) * 10 ^ power ≤ safe := by
          rcases bounds with low | most
          · exact mul_zpow_le_safe small low
          · exact le_trans most (value_decimal_le_safe fits smaller)
        have finite' := isFinite_scaleWord small safe' negative
        exact ⟨_, reads.reread.trans (if_pos finite'), finite'⟩

end Json

namespace Binary64

/-- The number that a number is read back as from its text in documents. -/
def reread (x : Binary64) : Binary64 := ((Json.number (.float x)).reread.float?).getD x

variable {x : Binary64}

theorem reread_number (finite : x.isFinite = true) :
    (Json.number (.float x)).reread = .number (.float x.reread) := by
  obtain ⟨y, read, -⟩ := Json.exists_reread_float finite
  rw [reread, read]
  rfl

theorem isFinite_reread (finite : x.isFinite = true) : x.reread.isFinite = true := by
  obtain ⟨y, read, finite'⟩ := Json.exists_reread_float finite
  rw [reread, read]
  exact finite'

/-- The number nearest to an integer that is not huge is finite. -/
theorem isFinite_ofRatio_one {n : Nat} (small : n < 2 ^ 1000) (negative : Bool) :
    (ofRatio negative n 1).isFinite = true := by
  rcases Nat.eq_zero_or_pos n with rfl | positive
  · rfl
  · have safe := Json.natCast_le_safe (le_trans small.le (by decide +kernel))
    exact (Json.ofRatio_natCast positive safe negative).1

theorem isFinite_ofNat {n : Nat} (small : n < 2 ^ 1000) : (ofNat n).isFinite = true :=
  isFinite_ofRatio_one small false

theorem isFinite_ofInt {n : Int} (small : n.natAbs < 2 ^ 1000) : (ofInt n).isFinite = true :=
  isFinite_ofRatio_one small _

end Binary64

end StrategyDesk
