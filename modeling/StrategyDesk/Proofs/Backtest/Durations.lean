import StrategyDesk.Backtest.Summary
import StrategyDesk.Proofs.Number.Digits
import StrategyDesk.Proofs.Number.Quotients

/-!
# Durations in words

The text of a duration stands for its seconds rounded to the nearest whole number, but it is not
always the usual text of them: the minutes are taken off before the seconds left are rounded, so
that these may be 60.

## Main Definitions

* `shownDuration` — minutes and seconds in words, without minutes where there are none
* `Reads` — a text in words and the whole seconds that it stands for
* `durationText` — the usual text of whole seconds, with less than 60 of them beside the minutes
* `secondsLeft` — what is left of a duration beside its whole minutes

## Main Statements

* `shownDuration_inj`, `Reads.unique` — a text stands for one number of seconds
* `elapsedText_of_pos` — which minutes and seconds are shown
* `elapsed_reads_rounded` — what the text stands for, and when it is the usual one
-/

namespace StrategyDesk

open Binary64

/-! ## Texts -/

/-- Minutes and seconds in words; no minutes are left out. -/
def shownDuration (minutes seconds : ℕ) : String :=
  if minutes = 0 then s!"{seconds}s" else s!"{minutes}m {seconds}s"

/-- The text is one of minutes and seconds, which come to a number of seconds. -/
def Reads (text : String) (total : ℕ) : Prop :=
  ∃ minutes seconds, text = shownDuration minutes seconds ∧ 60 * minutes + seconds = total

/-- The usual text of a number of seconds. -/
def durationText (total : ℕ) : String := shownDuration (total / 60) (total % 60)

/-- What comes behind the first number of a text of minutes and seconds. -/
def shownTail (minutes seconds : ℕ) : List Char :=
  if minutes = 0 then ['s'] else 'm' :: ' ' :: Nat.toDigits 10 seconds ++ ['s']

theorem toList_shownDuration (minutes seconds : ℕ) :
    (shownDuration minutes seconds).toList =
      Nat.toDigits 10 (if minutes = 0 then seconds else minutes) ++ shownTail minutes seconds := by
  unfold shownDuration shownTail
  split <;> simp [Nat.toList_repr, toString]

theorem noDigit_shownTail (minutes seconds : ℕ) : NoDigit (shownTail minutes seconds) := by
  unfold shownTail
  split <;> exact noDigit_cons rfl _

/-- A number and what comes behind it are told apart. -/
theorem toDigits_append_inj {n n' : ℕ} {rest rest' : List Char} (ends : NoDigit rest)
    (ends' : NoDigit rest') (same : Nat.toDigits 10 n ++ rest = Nat.toDigits 10 n' ++ rest') :
    n = n' ∧ rest = rest' := by
  have digits := congrArg (List.takeWhile Char.isDigit) same
  have others := congrArg (List.dropWhile Char.isDigit) same
  rw [takeWhile_digits (isDigit_toDigits n) ends, takeWhile_digits (isDigit_toDigits n') ends']
    at digits
  rw [dropWhile_digits (isDigit_toDigits n) ends, dropWhile_digits (isDigit_toDigits n') ends']
    at others
  refine ⟨?_, others⟩
  rw [← digitsValue_toDigits n, digits, digitsValue_toDigits]

/-- **A text in words determines its minutes and its seconds.** -/
theorem shownDuration_inj {minutes minutes' seconds seconds' : ℕ}
    (same : shownDuration minutes seconds = shownDuration minutes' seconds') :
    minutes = minutes' ∧ seconds = seconds' := by
  have chars := congrArg String.toList same
  rw [toList_shownDuration, toList_shownDuration] at chars
  obtain ⟨first, tails⟩ :=
    toDigits_append_inj (noDigit_shownTail _ _) (noDigit_shownTail _ _) chars
  unfold shownTail at tails
  split at tails <;> split at tails
  case isTrue.isTrue none none' =>
    rw [if_pos none, if_pos none'] at first
    exact ⟨none.trans none'.symm, first⟩
  case isTrue.isFalse => cases tails
  case isFalse.isTrue => cases tails
  case isFalse.isFalse some some' =>
    rw [if_neg some, if_neg some'] at first
    have behind := (List.cons.inj (List.cons.inj tails).2).2
    exact ⟨first, (toDigits_append_inj (noDigit_cons rfl _) (noDigit_cons rfl _) behind).1⟩

/-- A text stands for one number of seconds. -/
theorem Reads.unique {text : String} {total total' : ℕ} (reads : Reads text total)
    (reads' : Reads text total') : total = total' := by
  obtain ⟨minutes, seconds, rfl, rfl⟩ := reads
  obtain ⟨minutes', seconds', same, rfl⟩ := reads'
  obtain ⟨rfl, rfl⟩ := shownDuration_inj same
  rfl

/-- The text of minutes and seconds is the usual one of their sum if it has less than 60 seconds. -/
theorem shownDuration_eq_durationText_iff (minutes seconds : ℕ) :
    shownDuration minutes seconds = durationText (60 * minutes + seconds) ↔ seconds < 60 := by
  constructor
  · intro same
    obtain ⟨-, rest⟩ := shownDuration_inj same
    omega
  · intro small
    rw [durationText]
    congr 1 <;> omega

/-! ## What is shown -/

/-- What is left of a number of seconds beside its whole minutes. -/
def secondsLeft (seconds : ℚ) : ℚ := seconds - 60 * ⌊seconds / 60⌋₊

theorem secondsLeft_nonneg {seconds : ℚ} (nonneg : 0 ≤ seconds) : 0 ≤ secondsLeft seconds := by
  have below := Nat.floor_le (div_nonneg nonneg (by norm_num : (0 : ℚ) ≤ 60))
  rw [le_div_iff₀ (by norm_num)] at below
  unfold secondsLeft
  linarith

theorem secondsLeft_lt (seconds : ℚ) : secondsLeft seconds < 60 := by
  have above := Nat.lt_floor_add_one (seconds / 60)
  rw [div_lt_iff₀ (by norm_num)] at above
  unfold secondsLeft
  linarith

theorem round_secondsLeft_nonneg {seconds : ℚ} (nonneg : 0 ≤ seconds) :
    0 ≤ round (secondsLeft seconds) := by
  rw [round_eq]
  exact Int.floor_nonneg.mpr (by linarith [secondsLeft_nonneg nonneg])

/-- The seconds left are rounded to 60 at most. -/
theorem toNat_round_secondsLeft_le (seconds : ℚ) : (round (secondsLeft seconds)).toNat ≤ 60 := by
  have less : round (secondsLeft seconds) < 61 := by
    rw [round_eq, Int.floor_lt]
    push_cast
    linarith [secondsLeft_lt seconds]
  omega

/-- They are rounded to less if they are not within half a second of it. -/
theorem toNat_round_secondsLeft_lt_iff (seconds : ℚ) :
    (round (secondsLeft seconds)).toNat < 60 ↔ secondsLeft seconds < 119 / 2 := by
  rw [Int.toNat_lt_of_ne_zero (by decide), round_eq, Int.floor_lt]
  push_cast
  constructor <;> intro less <;> linarith

/-- Whole minutes may be taken off before rounding. -/
theorem round_eq_add_secondsLeft (seconds : ℚ) :
    round seconds = 60 * (⌊seconds / 60⌋₊ : ℤ) + round (secondsLeft seconds) := by
  have split : seconds = secondsLeft seconds + ((60 * ⌊seconds / 60⌋₊ : ℕ) : ℤ) := by
    unfold secondsLeft
    push_cast
    ring
  conv_lhs => rw [split, round_add_intCast]
  push_cast
  ring

namespace Binary64

theorem toRat_sixty : (ofNat 60).toRat = (60 : ℕ) := by decide +kernel

variable {x : Binary64}

theorem le_zero_iff (finite : x.isFinite = true) : x.le (zero false) = true ↔ x.toRat ≤ 0 := by
  rw [le_iff finite rfl, toRat_zero]

theorem lt_sixty_iff (finite : x.isFinite = true) : x.lt (ofNat 60) = true ↔ x.toRat < 60 := by
  rw [lt_iff finite rfl, toRat_sixty, Nat.cast_ofNat]

theorem magnitude_sixty : (ofNat 60).magnitude = (60 : ℕ) := by
  rw [← toRat_eq_magnitude rfl, toRat_sixty]

theorem one_le_magnitude_sixty : 1 ≤ (ofNat 60).magnitude := by
  rw [magnitude_sixty]
  norm_num

/-- The minutes of a duration of a minute or more are its whole ones. -/
theorem floorWord_div_sixty (finite : x.isFinite = true) (small : x.toRat < 2 ^ 53)
    (large : 60 ≤ x.toRat) : (x.div (ofNat 60)).floorWord 64 = ⌊x.toRat / 60⌋₊ := by
  have sign : x.isNegative = false :=
    isNegative_of_toRat_pos (lt_of_lt_of_le (by norm_num) large)
  have finite' : (x.div (ofNat 60)).isFinite = true :=
    isFinite_div finite rfl one_le_magnitude_sixty
  have sign' : (x.div (ofNat 60)).isNegative = false := by
    obtain ⟨num, den, quotient, -, -⟩ :=
      exists_div finite rfl (one_pos.trans_le one_le_magnitude_sixty).ne'
    rw [quotient, isNegative_ofRatio, sign]
    rfl
  have whole : ⌊(x.div (ofNat 60)).toRat⌋₊ = ⌊x.toRat / 60⌋₊ := by
    rw [toRat_eq_magnitude sign] at small large
    rw [toRat_eq_magnitude sign', toRat_eq_magnitude sign,
      floor_magnitude_div finite rfl small magnitude_sixty (by norm_num)
        (by rw [magnitude_sixty]; exact_mod_cast large), magnitude_sixty, Nat.cast_ofNat]
  have nonneg : 0 ≤ (x.div (ofNat 60)).toRat := by
    rw [toRat_eq_magnitude sign']
    exact magnitude_nonneg _
  rw [floorWord_of_nonneg finite' nonneg, whole]
  refine Nat.min_eq_left (Nat.floor_le_of_le ?_)
  calc x.toRat / 60 ≤ 2 ^ 53 := by linarith
    _ ≤ ((wordSize 64 - 1 : ℕ) : ℚ) := by norm_num [wordSize, Nat.pow_eq]

/-- The seconds shown beside the minutes are those left, rounded. -/
theorem roundWord_rem_sixty (finite : x.isFinite = true) (positive : 0 < x.toRat) :
    (x.rem (ofNat 60)).roundWord 64 = (round (secondsLeft x.toRat)).toNat := by
  have sign : x.isNegative = false := isNegative_of_toRat_pos positive
  have nonzero : (ofNat 60).magnitude ≠ 0 := (one_pos.trans_le one_le_magnitude_sixty).ne'
  have sign' : (x.rem (ofNat 60)).isNegative = false := by
    obtain ⟨num, den, remainder, -, -⟩ := exists_rem finite rfl nonzero
    rw [remainder, isNegative_ofRatio, sign]
  have exact : (x.rem (ofNat 60)).toRat = secondsLeft x.toRat := by
    rw [toRat_eq_magnitude sign', magnitude_rem finite rfl nonzero, magnitude_sixty,
      ← toRat_eq_magnitude sign]
    rfl
  have nonneg : 0 ≤ secondsLeft x.toRat := secondsLeft_nonneg positive.le
  rw [roundWord_of_nonneg (isFinite_rem finite rfl nonzero) (exact ▸ nonneg), exact]
  exact Nat.min_eq_left ((toNat_round_secondsLeft_le _).trans (by decide))

end Binary64

variable {x : Binary64}

/-- **Which minutes and seconds are shown**: the whole minutes, and the seconds left, rounded on
their own. -/
theorem elapsedText_of_pos (finite : x.isFinite = true) (small : x.toRat < 2 ^ 53)
    (positive : 0 < x.toRat) :
    elapsedText x = shownDuration ⌊x.toRat / 60⌋₊ (round (secondsLeft x.toRat)).toNat := by
  have number : (x.isNaN || x.le (.zero false)) = false := by
    cases x with
    | infinite _ | nan => cases finite
    | finite _ _ _ _ =>
        rw [Bool.eq_false_iff, ne_eq, Bool.or_eq_true, not_or]
        exact ⟨Bool.false_ne_true, fun below => not_lt.mpr ((le_zero_iff rfl).mp below) positive⟩
  rw [elapsedText, number, if_neg Bool.false_ne_true]
  split
  case isTrue below =>
    rw [lt_sixty_iff finite] at below
    have none : ⌊x.toRat / 60⌋₊ = 0 := Nat.floor_eq_zero.mpr (by linarith)
    have all : secondsLeft x.toRat = x.toRat := by
      rw [secondsLeft, none, Nat.cast_zero, mul_zero, sub_zero]
    have word := toNat_round_secondsLeft_le x.toRat
    rw [all] at word
    have fits : x.roundWord 64 = (round x.toRat).toNat := by
      rw [roundWord_of_nonneg finite positive.le]
      exact Nat.min_eq_left (word.trans (by decide))
    rw [none, all, fits, shownDuration, if_pos rfl]
  case isFalse notBelow =>
    rw [lt_sixty_iff finite, not_lt] at notBelow
    have some : ⌊x.toRat / 60⌋₊ ≠ 0 :=
      (Nat.floor_pos.mpr ((one_le_div (by norm_num)).mpr notBelow)).ne'
    rw [floorWord_div_sixty finite small notBelow, roundWord_rem_sixty finite positive,
      shownDuration, if_neg some]

theorem elapsedText_of_nonpos (finite : x.isFinite = true) (nonpos : x.toRat ≤ 0) :
    elapsedText x = "0s" := by
  rw [elapsedText, (le_zero_iff finite).mpr nonpos, Bool.or_true, if_pos rfl]

/-- The minutes and seconds shown come to the duration, rounded to whole seconds; a duration that is
not above zero has none. -/
theorem elapsedText_eq_shownDuration (finite : x.isFinite = true) (small : x.toRat < 2 ^ 53) :
    elapsedText x = shownDuration ⌊x.toRat / 60⌋₊ (round (secondsLeft x.toRat)).toNat ∧
      60 * ⌊x.toRat / 60⌋₊ + (round (secondsLeft x.toRat)).toNat = (round x.toRat).toNat := by
  have rounded := round_eq_add_secondsLeft x.toRat
  rcases le_or_gt x.toRat 0 with nonpos | positive
  · have none : ⌊x.toRat / 60⌋₊ = 0 := Nat.floor_of_nonpos (by linarith)
    have zero : round x.toRat ≤ 0 := by
      rw [round_eq, ← Int.lt_add_one_iff, Int.floor_lt]
      push_cast
      linarith
    rw [none] at rounded ⊢
    have left : (round (secondsLeft x.toRat)).toNat = 0 := by omega
    rw [left, elapsedText_of_nonpos finite nonpos]
    exact ⟨rfl, by omega⟩
  · have nonneg := round_secondsLeft_nonneg positive.le
    exact ⟨elapsedText_of_pos finite small positive, by omega⟩

theorem reads_elapsedText (finite : x.isFinite = true) (small : x.toRat < 2 ^ 53) :
    Reads (elapsedText x) (round x.toRat).toNat :=
  ⟨_, _, elapsedText_eq_shownDuration finite small⟩

/-- **The text of a duration stands for its seconds, rounded to the nearest whole number**, so that
a longer duration never reads as a shorter one. It is the usual text of them exactly if what is left
beside the whole minutes is not within half a second of another minute. -/
theorem elapsed_reads_rounded (finite : x.isFinite = true) (small : x.toRat < 2 ^ 53) :
    (x.toRat ≤ 0 → elapsedText x = "0s") ∧
      Reads (elapsedText x) (round x.toRat).toNat ∧
      (elapsedText x = durationText (round x.toRat).toNat ↔ secondsLeft x.toRat < 119 / 2) ∧
      ∀ longer : Binary64, longer.isFinite = true → longer.toRat < 2 ^ 53 →
        x.toRat ≤ longer.toRat → ∀ total total', Reads (elapsedText x) total →
          Reads (elapsedText longer) total' → total ≤ total' := by
  refine ⟨elapsedText_of_nonpos finite, reads_elapsedText finite small, ?_, ?_⟩
  · obtain ⟨text, total⟩ := elapsedText_eq_shownDuration finite small
    rw [text, ← total, shownDuration_eq_durationText_iff, toNat_round_secondsLeft_lt_iff]
  · intro longer finite' small' below total total' reads reads'
    rw [reads.unique (reads_elapsedText finite small),
      reads'.unique (reads_elapsedText finite' small')]
    refine Int.toNat_le_toNat ?_
    rw [round_eq, round_eq]
    exact Int.floor_le_floor (by linarith)

/-- A quarter of a second before the hour reads as the hour, in unusual words, and not as more than
the hour does. -/
theorem elapsed_reads_rounded_hour :
    (ofRatio false 14399 4).isFinite = true ∧ (ofRatio false 14399 4).toRat < 2 ^ 53 ∧
      (ofNat 3600).isFinite = true ∧ (ofNat 3600).toRat < 2 ^ 53 ∧
      (ofRatio false 14399 4).toRat ≤ (ofNat 3600).toRat ∧
      Reads (elapsedText (ofRatio false 14399 4)) 3600 ∧
      Reads (elapsedText (ofNat 3600)) 3600 ∧
      elapsedText (ofRatio false 14399 4) ≠ durationText 3600 ∧ (3600 : ℕ) ≤ 3600 := by
  have nearly : (ofRatio false 14399 4).toRat = 14399 / 4 := by decide +kernel
  have whole : (ofNat 3600).toRat = 3600 := by decide +kernel
  have small : (ofRatio false 14399 4).toRat < 2 ^ 53 := by
    rw [nearly]
    norm_num
  have small' : (ofNat 3600).toRat < 2 ^ 53 := by
    rw [whole]
    norm_num
  have below : (ofRatio false 14399 4).toRat ≤ (ofNat 3600).toRat := by
    rw [nearly, whole]
    norm_num
  have rounded : (round (ofRatio false 14399 4).toRat).toNat = 3600 := by decide +kernel
  have left : secondsLeft (ofRatio false 14399 4).toRat = 239 / 4 := by
    rw [nearly, secondsLeft, (by norm_num : ⌊(14399 / 4 : ℚ) / 60⌋₊ = 59)]
    norm_num
  obtain ⟨-, reads, usual, mono⟩ := elapsed_reads_rounded (x := ofRatio false 14399 4) rfl small
  have reads' : Reads (elapsedText (ofNat 3600)) 3600 := ⟨60, 0, by decide +kernel, rfl⟩
  rw [rounded] at reads usual
  refine ⟨rfl, small, rfl, small', below, reads, reads', fun same => ?_,
    mono _ rfl small' below _ _ reads reads'⟩
  have less := usual.mp same
  rw [left] at less
  norm_num at less

/-- **Seconds left may be shown as 60**: half a second before the minute. -/
theorem elapsed_sixty_seconds :
    elapsedText (ofRatio false 119 2) = "60s" ∧ round (ofRatio false 119 2).toRat = 60 ∧
      durationText 60 = "1m 0s" := by
  decide +kernel

end StrategyDesk
