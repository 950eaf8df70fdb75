import Mathlib.Algebra.Order.Floor.Semifield
import StrategyDesk.Proofs.Number.Ranges

/-!
# Whole parts and remainders

The whole part of a rounded quotient by a whole number is the whole part of the exact quotient, as
long as the dividend is below the first number with gaps around it; and a remainder is not rounded
at all.

## Main Statements

* `Binary64.magnitude_ofRatio_of_short` — a quotient of 53 bits is not rounded
* `Binary64.floor_magnitude_div` — the whole part of a quotient
* `Binary64.magnitude_rem` — a remainder is exact
* `Binary64.floorWord_of_nonneg` — the whole part as a word
-/

namespace StrategyDesk

/-- What is at most a half away from a number is not below a whole number that is not above it. -/
theorem le_of_abs_sub_le_half {nearest whole : ℕ} {q : ℚ} (near : |(nearest : ℚ) - q| ≤ 1 / 2)
    (below : (whole : ℚ) ≤ q) : whole ≤ nearest := by
  have reach : (whole : ℚ) < (nearest + 1 : ℕ) := by
    push_cast
    linarith [(abs_le.mp near).1]
  exact Nat.lt_succ_iff.mp (by exact_mod_cast reach)

/-- A whole number is the only one at most a half away from it. -/
theorem eq_of_abs_sub_le_half {nearest whole : ℕ} {q : ℚ} (near : |(nearest : ℚ) - q| ≤ 1 / 2)
    (exact : q = whole) : nearest = whole := by
  refine le_antisymm ?_ (le_of_abs_sub_le_half near exact.ge)
  have reach : (nearest : ℚ) < (whole + 1 : ℕ) := by
    push_cast
    linarith [(abs_le.mp near).2]
  exact Nat.lt_succ_iff.mp (by exact_mod_cast reach)

/-- A multiple of a power of two is one of each lower power. -/
theorem mul_zpow_eq_mul_zpow {low high : ℤ} (below : low ≤ high) (factor : ℕ) :
    (factor : ℚ) * 2 ^ high = (factor * 2 ^ (high - low).toNat : ℕ) * 2 ^ low := by
  have split : high = ((high - low).toNat : ℤ) + low := by omega
  conv_lhs => rw [split, zpow_add₀ two_ne_zero, zpow_natCast, ← mul_assoc]
  push_cast
  rfl

/-- A whole number is a multiple of each power of two that is not above one. -/
theorem natCast_eq_mul_zpow {exponent : ℤ} (fine : exponent ≤ 0) (whole : ℕ) :
    (whole : ℚ) = (whole * 2 ^ (0 - exponent).toNat : ℕ) * 2 ^ exponent := by
  rw [← mul_zpow_eq_mul_zpow fine, zpow_zero, mul_one]

/-- What has 53 bits before a place and no more than that before another has the one below the
other. -/
theorem exponent_le {low high : ℤ} {q : ℚ} (above : 2 ^ 52 * 2 ^ low ≤ q)
    (below : q < 2 ^ 53 * 2 ^ high) : low ≤ high := by
  have strict : (2 : ℚ) ^ (52 + low) < 2 ^ (53 + high) := by
    calc (2 : ℚ) ^ (52 + low)
        = 2 ^ 52 * 2 ^ low := zpow_add₀ two_ne_zero 52 low
      _ ≤ q := above
      _ < 2 ^ 53 * 2 ^ high := below
      _ = 2 ^ (53 + high) := (zpow_add₀ two_ne_zero 53 high).symm
  have := (zpow_lt_zpow_iff_right₀ one_lt_two).mp strict
  omega

namespace Binary64

/-! ## Signs -/

/-- The value of a number without a sign is its magnitude. -/
theorem toRat_eq_magnitude {x : Binary64} (positive : x.isNegative = false) :
    x.toRat = x.magnitude := by
  cases x with
  | infinite _ | nan => rfl
  | finite negative mantissa exponent fits =>
      obtain ⟨num, den, ratio, -, value⟩ :=
        ratio?_of_isFinite (x := finite negative mantissa exponent fits) rfl
      rw [positive] at ratio
      rw [toRat_of_ratio? ratio, if_neg Bool.false_ne_true, value]

theorem isNegative_ofParts (negative : Bool) (mantissa : ℕ) (exponent : ℤ) :
    (ofParts negative mantissa exponent).isNegative = negative := by
  unfold ofParts
  split <;> rfl

theorem isNegative_ofRatio (negative : Bool) (num den : ℕ) :
    (ofRatio negative num den).isNegative = negative := by
  unfold ofRatio
  dsimp only
  split
  · exact isNegative_ofParts ..
  · split <;> exact isNegative_ofParts ..

/-! ## Rounded magnitudes -/

theorem magnitude_ofParts {negative : Bool} {mantissa : ℕ} {exponent : ℤ}
    (finite : (ofParts negative mantissa exponent).isFinite = true) :
    (ofParts negative mantissa exponent).magnitude = mantissa * 2 ^ exponent := by
  by_cases fits : Fits mantissa exponent
  · rw [ofParts, dif_pos fits, magnitude]
  · rw [ofParts, dif_neg fits] at finite
    cases finite

section Nearest

variable {num den : ℕ}

theorem magnitude_ofRatio_zero (negative : Bool) (den : ℕ) :
    (ofRatio negative 0 den).magnitude = 0 := by
  have zero : (ofParts negative 0 (-1074)).magnitude = (0 : ℕ) * 2 ^ (-1074 : ℤ) :=
    magnitude_ofParts rfl
  rw [ofRatio, if_pos rfl, Binary64.zero, zero, Nat.cast_zero, zero_mul]

/-- **The magnitude of the nearest number is the quotient rounded to whole units of a power of
two** that leaves 53 bits, or of the lowest power. -/
theorem exists_magnitude_ofRatio (positive : 0 < num) (positive' : 0 < den)
    (small : (num : ℚ) / den < overflow) (negative : Bool) :
    ∃ (mantissa : ℕ) (exponent : ℤ),
      (ofRatio negative num den).magnitude = mantissa * 2 ^ exponent ∧
      |(mantissa : ℚ) - num / den / 2 ^ exponent| ≤ 1 / 2 ∧
      (num : ℚ) / den / 2 ^ exponent < 2 ^ 53 ∧ -1074 ≤ exponent ∧
      (2 ^ 52 ≤ (num : ℚ) / den / 2 ^ exponent ∨ exponent = -1074) := by
  have finite := isFinite_ofRatio positive' small negative
  obtain ⟨mantissa, exponent, number, nearest, short, least, normal⟩ :=
    exists_ofRatio positive positive' negative
  refine ⟨mantissa, exponent, ?_, nearest, short, least, normal⟩
  rw [number] at finite ⊢
  split at finite
  case isTrue carry =>
    rw [if_pos carry, magnitude_ofParts finite, carry, zpow_add_one₀ two_ne_zero]
    push_cast [Nat.pow_eq]
    ring
  case isFalse noCarry => rw [if_neg noCarry, magnitude_ofParts finite]

/-- **A quotient of at most 53 bits is not rounded.** -/
theorem magnitude_ofRatio_of_short (positive : 0 < den) (small : (num : ℚ) / den < overflow)
    {bits : ℕ} {scale : ℤ} (value : (num : ℚ) / den = bits * 2 ^ scale) (short : bits < 2 ^ 53)
    (low : -1074 ≤ scale) (negative : Bool) :
    (ofRatio negative num den).magnitude = num / den := by
  rcases Nat.eq_zero_or_pos num with zero | positive'
  · rw [zero, magnitude_ofRatio_zero, Nat.cast_zero, zero_div]
  · obtain ⟨mantissa, exponent, number, nearest, -, -, normal⟩ :=
      exists_magnitude_ofRatio positive' positive small negative
    have power : (0 : ℚ) < 2 ^ exponent := by positivity
    have short' : (bits : ℚ) < 2 ^ 53 := by exact_mod_cast short
    -- The last place of the nearest number is not above that of the quotient.
    have below : exponent ≤ scale := by
      rcases normal with large | lowest
      · refine exponent_le ((le_div_iff₀ power).mp large) ?_
        rw [value]
        exact mul_lt_mul_of_pos_right short' (by positivity)
      · omega
    have whole := mul_zpow_eq_mul_zpow below bits
    have exact : (num : ℚ) / den / 2 ^ exponent = (bits * 2 ^ (scale - exponent).toNat : ℕ) := by
      rw [value, whole, mul_div_cancel_right₀ _ power.ne']
    rw [number, value, whole, eq_of_abs_sub_le_half nearest exact]

end Nearest

/-! ## Whole parts of quotients -/

section WholePart

variable {mantissa : ℕ} {exponent : ℤ} {q : ℚ}

/-- A whole part is not lost by rounding to units of a power that is not above one. -/
theorem floor_le_nearest (nonneg : 0 ≤ q) (fine : exponent ≤ 0)
    (near : |(mantissa : ℚ) - q / 2 ^ exponent| ≤ 1 / 2) :
    (⌊q⌋₊ : ℚ) ≤ mantissa * 2 ^ exponent := by
  have power : (0 : ℚ) < 2 ^ exponent := by positivity
  have units := natCast_eq_mul_zpow fine ⌊q⌋₊
  have reached : ((⌊q⌋₊ * 2 ^ (0 - exponent).toNat : ℕ) : ℚ) ≤ q / 2 ^ exponent := by
    rw [le_div_iff₀ power, ← units]
    exact Nat.floor_le nonneg
  rw [units]
  exact mul_le_mul_of_nonneg_right
    (by exact_mod_cast le_of_abs_sub_le_half near reached) power.le

/-- What lies below a whole number lies below it by a unit of its last place, if that is not above
one. -/
theorem mul_zpow_add_le {bits whole : ℕ} {scale : ℤ} (fine : scale ≤ 0)
    (below : (bits : ℚ) * 2 ^ scale < whole) : (bits : ℚ) * 2 ^ scale + 2 ^ scale ≤ whole := by
  have power : (0 : ℚ) < 2 ^ scale := by positivity
  rw [natCast_eq_mul_zpow fine whole] at below ⊢
  have less := Nat.succ_le_of_lt (by exact_mod_cast lt_of_mul_lt_mul_right below power.le)
  rw [← add_one_mul]
  exact mul_le_mul_of_nonneg_right (by exact_mod_cast less) power.le

/-- **A quotient is not rounded up to the next whole number.** The dividend, of 53 bits, misses a
multiple of the divisor by a unit of its last place at least. -/
theorem nearest_lt_floor_add_one {bits divisor : ℕ} {scale : ℤ} (positive : 0 < divisor)
    (exact : divisor * q = bits * 2 ^ scale) (short : bits < 2 ^ 53) (fine : scale ≤ 0)
    (large : 2 ^ 52 * 2 ^ exponent ≤ q) (near : |(mantissa : ℚ) - q / 2 ^ exponent| ≤ 1 / 2) :
    (mantissa : ℚ) * 2 ^ exponent < ⌊q⌋₊ + 1 := by
  have power : (0 : ℚ) < 2 ^ exponent := by positivity
  have divisor_pos : (0 : ℚ) < divisor := by exact_mod_cast positive
  have short' : (bits : ℚ) < 2 ^ 53 := by exact_mod_cast short
  by_contra above
  rw [not_lt] at above
  have missed : (2 : ℚ) ^ scale ≤ divisor * (⌊q⌋₊ + 1 - q) := by
    have strict : (bits : ℚ) * 2 ^ scale < (divisor * (⌊q⌋₊ + 1) : ℕ) := by
      push_cast
      rw [← exact]
      exact mul_lt_mul_of_pos_left (Nat.lt_floor_add_one q) divisor_pos
    have gap := mul_zpow_add_le fine strict
    push_cast at gap
    linarith
  have bridged : ⌊q⌋₊ + 1 - q ≤ 2 ^ exponent / 2 := by
    have half := (abs_le.mp near).2
    rw [sub_le_iff_le_add, ← sub_le_iff_le_add', le_div_iff₀ power] at half
    linarith
  refine lt_irrefl (divisor * q) ?_
  calc divisor * q
      = bits * 2 ^ scale := exact
    _ < 2 ^ 53 * 2 ^ scale := mul_lt_mul_of_pos_right short' (by positivity)
    _ ≤ 2 ^ 53 * (divisor * (2 ^ exponent / 2)) :=
        mul_le_mul_of_nonneg_left
          (missed.trans (mul_le_mul_of_nonneg_left bridged divisor_pos.le)) (by norm_num)
    _ = divisor * (2 ^ 52 * 2 ^ exponent) := by ring
    _ ≤ divisor * q := mul_le_mul_of_nonneg_left large divisor_pos.le

end WholePart

section Quotient

variable {x y : Binary64}

/-- A number below `2 ^ 53` has a last place that is not above one. -/
theorem exists_eq_mul_zpow_nonpos (finite : x.isFinite = true) (small : x.magnitude < 2 ^ 53) :
    ∃ (mantissa : ℕ) (exponent : ℤ), x.magnitude = mantissa * 2 ^ exponent ∧
      mantissa < 2 ^ 53 ∧ exponent ≤ 0 := by
  cases x with
  | infinite _ | nan => cases finite
  | finite negative mantissa exponent fits =>
      refine ⟨mantissa, exponent, rfl, fits.1, ?_⟩
      rcases fits.2.2.2 with normal | lowest
      · have normal' : (2 : ℚ) ^ 52 ≤ mantissa := by exact_mod_cast normal
        refine exponent_le (mul_le_mul_of_nonneg_right normal' (by positivity)) ?_
        rw [zpow_zero, mul_one]
        exact small
      · omega

/-- **The whole part of a rounded quotient is that of the exact one**, for a divisor that is a whole
number and a dividend without gaps around it. -/
theorem floor_magnitude_div (finite : x.isFinite = true) (finite' : y.isFinite = true)
    (small : x.magnitude < 2 ^ 53) {divisor : ℕ} (whole : y.magnitude = divisor)
    (positive : 0 < divisor) (least : y.magnitude ≤ x.magnitude) :
    ⌊(x.div y).magnitude⌋₊ = ⌊x.magnitude / y.magnitude⌋₊ := by
  have divisor_pos : 0 < y.magnitude := by
    rw [whole]
    exact_mod_cast positive
  have divisor_one : 1 ≤ y.magnitude := by
    rw [whole]
    exact_mod_cast positive
  obtain ⟨num, den, quotient, den_pos, value⟩ := exists_div finite finite' divisor_pos.ne'
  obtain ⟨bits, scale, dividend, short, fine⟩ := exists_eq_mul_zpow_nonpos finite small
  have one_le : 1 ≤ x.magnitude / y.magnitude := (one_le_div divisor_pos).mpr least
  have le_dividend : x.magnitude / y.magnitude ≤ x.magnitude :=
    div_le_self x.magnitude_nonneg divisor_one
  have exact : (divisor : ℚ) * (x.magnitude / y.magnitude) = bits * 2 ^ scale := by
    rw [← whole, mul_div_cancel₀ _ divisor_pos.ne', dividend]
  have num_pos : 0 < num := by
    refine Nat.pos_of_ne_zero fun zero => ?_
    rw [← value, zero, Nat.cast_zero, zero_div] at one_le
    exact absurd one_le (by norm_num)
  obtain ⟨mantissa, exponent, number, near, -, -, normal⟩ :=
    exists_magnitude_ofRatio num_pos den_pos
      (value ▸ lt_of_le_of_lt le_dividend x.magnitude_lt_overflow) (x.isNegative != y.isNegative)
  rw [quotient, number]
  rw [value] at near normal
  have power : (0 : ℚ) < 2 ^ exponent := by positivity
  -- The quotient is not a tiny one, so that it has 53 bits.
  have large : 2 ^ 52 * 2 ^ exponent ≤ x.magnitude / y.magnitude := by
    rcases normal with large | lowest
    · exact (le_div_iff₀ power).mp large
    · have tiny : (2 : ℚ) ^ 52 * 2 ^ (-1074 : ℤ) ≤ 1 := by
        calc (2 : ℚ) ^ 52 * 2 ^ (-1074 : ℤ)
            = 2 ^ (52 + -1074 : ℤ) := (zpow_add₀ two_ne_zero 52 (-1074)).symm
          _ ≤ 2 ^ (0 : ℤ) := zpow_le_zpow_right₀ one_le_two (by norm_num)
          _ = 1 := zpow_zero 2
      exact lowest ▸ tiny.trans one_le
  have fine' : exponent ≤ 0 := by
    refine exponent_le large ?_
    rw [zpow_zero, mul_one]
    exact lt_of_le_of_lt le_dividend small
  refine (Nat.floor_eq_iff (by positivity)).mpr ⟨?_, ?_⟩
  · exact floor_le_nearest (zero_le_one.trans one_le) fine' near
  · exact nearest_lt_floor_add_one positive exact short fine large near

end Quotient

/-! ## Remainders -/

section Remainder

variable {x y : Binary64}

/-- The remainder of finite numbers is the number nearest to that of their magnitudes. -/
theorem exists_rem (finite : x.isFinite = true) (finite' : y.isFinite = true)
    (nonzero : y.magnitude ≠ 0) :
    ∃ num den, x.rem y = ofRatio x.isNegative num den ∧ 0 < den ∧
      (num : ℚ) / den = x.magnitude - y.magnitude * ⌊x.magnitude / y.magnitude⌋₊ := by
  obtain ⟨num, den, ratio, positive, value⟩ := ratio?_of_isFinite finite
  obtain ⟨num', den', ratio', positive', value'⟩ := ratio?_of_isFinite finite'
  refine ⟨num * den' % (num' * den), den * den', ?_, Nat.mul_pos positive positive', ?_⟩
  · cases x with
    | infinite _ | nan => cases finite
    | finite _ _ _ _ =>
        cases y with
        | infinite _ | nan => cases finite'
        | finite _ mantissa' _ _ =>
            cases ratio
            cases ratio'
            cases mantissa' with
            | zero => exact absurd (by simp [magnitude]) nonzero
            | succ _ => rfl
  · have den_ne : (den : ℚ) ≠ 0 := by exact_mod_cast positive.ne'
    have den_ne' : (den' : ℚ) ≠ 0 := by exact_mod_cast positive'.ne'
    have quotient : ⌊x.magnitude / y.magnitude⌋₊ = num * den' / (num' * den) := by
      rw [← Nat.floor_div_eq_div (K := ℚ), ← value, ← value']
      push_cast
      rw [div_div_div_eq, mul_comm (den : ℚ)]
    have split : ((num * den' % (num' * den) : ℕ) : ℚ) =
        num * den' - num' * den * (num * den' / (num' * den) : ℕ) := by
      rw [eq_sub_iff_add_eq, add_comm]
      exact_mod_cast Nat.div_add_mod (num * den') (num' * den)
    rw [quotient, split, ← value, ← value']
    push_cast
    field_simp

theorem remainder_lt_overflow :
    x.magnitude - y.magnitude * ⌊x.magnitude / y.magnitude⌋₊ < overflow :=
  lt_of_le_of_lt (sub_le_self _ (mul_nonneg y.magnitude_nonneg (Nat.cast_nonneg _)))
    x.magnitude_lt_overflow

theorem isFinite_rem (finite : x.isFinite = true) (finite' : y.isFinite = true)
    (nonzero : y.magnitude ≠ 0) : (x.rem y).isFinite = true := by
  obtain ⟨num, den, remainder, positive, value⟩ := exists_rem finite finite' nonzero
  rw [remainder]
  exact isFinite_ofRatio positive (value ▸ remainder_lt_overflow) _

/-- The remainder of two multiples of a power of two is one of them. -/
theorem sub_mul_floor_div (bits bits' : ℕ) (scale : ℤ) :
    (bits : ℚ) * 2 ^ scale - bits' * 2 ^ scale *
      ⌊(bits : ℚ) * 2 ^ scale / (bits' * 2 ^ scale)⌋₊ = (bits % bits' : ℕ) * 2 ^ scale := by
  have power : (2 : ℚ) ^ scale ≠ 0 := by positivity
  have split : ((bits % bits' : ℕ) : ℚ) = bits - bits' * (bits / bits' : ℕ) := by
    rw [eq_sub_iff_add_eq, add_comm]
    exact_mod_cast Nat.div_add_mod bits bits'
  rw [mul_div_mul_right _ _ power, Nat.floor_div_eq_div, split]
  ring

/-- **A remainder is not rounded.** -/
theorem magnitude_rem (finite : x.isFinite = true) (finite' : y.isFinite = true)
    (nonzero : y.magnitude ≠ 0) :
    (x.rem y).magnitude = x.magnitude - y.magnitude * ⌊x.magnitude / y.magnitude⌋₊ := by
  obtain ⟨num, den, remainder, positive, value⟩ := exists_rem finite finite' nonzero
  have small : (num : ℚ) / den < overflow := value ▸ remainder_lt_overflow
  suffices short : ∃ (bits : ℕ) (scale : ℤ), (num : ℚ) / den = bits * 2 ^ scale ∧
      bits < 2 ^ 53 ∧ -1074 ≤ scale by
    obtain ⟨bits, scale, exact, short, low⟩ := short
    rw [remainder, magnitude_ofRatio_of_short positive small exact short low, value]
  cases x with
  | infinite _ | nan => cases finite
  | finite negative mantissa exponent fits =>
      cases y with
      | infinite _ | nan => cases finite'
      | finite negative' mantissa' exponent' fits' =>
          -- In units of the lower last place the remainder is below the divisor and not above the
          -- dividend, one of which has 53 bits in these units.
          have positive' : 0 < mantissa' := by
            refine Nat.pos_of_ne_zero fun zero => nonzero ?_
            rw [magnitude, zero, Nat.cast_zero, zero_mul]
          rw [magnitude, magnitude] at value
          rcases le_total exponent exponent' with below | above
          · rw [mul_zpow_eq_mul_zpow below mantissa', sub_mul_floor_div] at value
            exact ⟨_, exponent, value, lt_of_le_of_lt (Nat.mod_le _ _) fits.1, fits.2.1⟩
          · rw [mul_zpow_eq_mul_zpow above mantissa, sub_mul_floor_div] at value
            exact ⟨_, exponent', value, (Nat.mod_lt _ positive').trans fits'.1, fits'.2.1⟩

end Remainder

/-! ## Words -/

/-- The whole part of a number that is not below zero, as far as it fits the word. -/
theorem floorWord_of_nonneg {x : Binary64} (finite : x.isFinite = true) (nonneg : 0 ≤ x.toRat)
    (bits : ℕ) : x.floorWord bits = saturate bits ⌊x.toRat⌋₊ := by
  obtain ⟨num, den, ratio, positive, -⟩ := ratio?_of_isFinite finite
  have value := toRat_of_ratio? ratio
  have word : x.floorWord bits = if x.isNegative then 0 else saturate bits (num / den) := by
    cases x with
    | infinite _ | nan => cases finite
    | finite sign _ _ _ =>
        simp only [floorWord, ratio]
        cases sign <;> rfl
  rw [word]
  split at value
  case isTrue negative =>
    rw [if_pos negative, toRat_eq_zero_of_isNegative negative nonneg, Nat.floor_zero]
    exact (Nat.min_eq_left (Nat.zero_le _)).symm
  case isFalse notNegative => rw [if_neg notNegative, value, Nat.floor_div_eq_div]

end Binary64

end StrategyDesk
