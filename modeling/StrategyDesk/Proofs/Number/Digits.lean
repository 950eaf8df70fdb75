import Mathlib.Algebra.Group.Nat.Defs
import StrategyDesk.Number.Reading

/-!
# Runs of digits

A natural number is read back from its decimal digits, also behind leading zeros, and a run of
digits is told apart from what follows it.

## Main Definitions

* `NoDigit` — a text that does not go on with a digit

## Main Statements

* `digitsValue_zeros_toDigits` — the value of the digits of a number behind zeros
* `takeWhile_digits`, `dropWhile_digits` — where a run of digits ends
* `digitsValue_lt` — digits stand for a number of no more places
-/

namespace StrategyDesk

/-! ## Where a run ends -/

/-- The text does not begin with a digit. -/
def NoDigit (text : List Char) : Prop := ∀ c ∈ text.head?, c.isDigit = false

theorem noDigit_nil : NoDigit [] := fun _ member => nomatch member

theorem noDigit_cons {c : Char} (other : c.isDigit = false) (text : List Char) :
    NoDigit (c :: text) := fun _ member => Option.some.inj member ▸ other

variable {digits rest : List Char}

theorem takeWhile_digits (all : ∀ c ∈ digits, c.isDigit) (ends : NoDigit rest) :
    (digits ++ rest).takeWhile Char.isDigit = digits := by
  rw [List.takeWhile_append_of_pos all]
  cases rest with
  | nil => simp
  | cons c _ => rw [List.takeWhile_cons_of_neg (by simp [ends c rfl]), List.append_nil]

theorem dropWhile_digits (all : ∀ c ∈ digits, c.isDigit) (ends : NoDigit rest) :
    (digits ++ rest).dropWhile Char.isDigit = rest := by
  rw [List.dropWhile_append_of_pos all]
  cases rest with
  | nil => rfl
  | cons c _ => rw [List.dropWhile_cons_of_neg (by simp [ends c rfl])]

/-! ## The digits of a number -/

theorem digitValue_lt {c : Char} (digit : c.isDigit) : digitValue c < 10 := by
  have bounds : 48 ≤ c.toNat ∧ c.toNat ≤ 57 := by
    simpa [Char.isDigit, UInt32.le_iff_toNat_le] using digit
  have zero : '0'.toNat = 48 := rfl
  unfold digitValue
  omega

theorem isDigit_toDigits (n : Nat) : ∀ c ∈ Nat.toDigits 10 n, c.isDigit :=
  fun _ member => Nat.isDigit_of_mem_toDigits (by decide) (by decide) member

/-- No zero leads the digits of a positive number. -/
theorem head?_toDigits {n : Nat} (positive : n ≠ 0) : (Nat.toDigits 10 n).head? ≠ some '0' := by
  induction n using Nat.strongRecOn with
  | ind n ih =>
      rcases Nat.lt_or_ge n 10 with small | large
      · rw [Nat.toDigits_of_lt_base small]
        simpa using positive
      · obtain ⟨first, others, digits⟩ := List.exists_cons_of_ne_nil
          (Nat.toDigits_ne_nil (n := n / 10) (b := 10))
        have tens := ih (n / 10) (by omega) (by omega)
        rw [digits] at tens
        rw [Nat.toDigits_of_base_le (by decide) large, digits]
        exact tens

theorem digitsValue_eq_ofDigitChars (start : Nat) (digits : List Char) :
    digitsValue start digits = Nat.ofDigitChars 10 digits start := by
  rw [Nat.ofDigitChars_eq_foldl]
  rfl

theorem digitsValue_toDigits (n : Nat) : digitsValue 0 (Nat.toDigits 10 n) = n := by
  rw [digitsValue_eq_ofDigitChars, Nat.ofDigitChars_ten_toDigits]

/-- Leading zeros do not change the value of digits. -/
theorem digitsValue_zeros_toDigits (zeros n : Nat) :
    digitsValue 0 (List.replicate zeros '0' ++ Nat.toDigits 10 n) = n := by
  rw [digitsValue_eq_ofDigitChars, Nat.ofDigitChars_append, Nat.ofDigitChars_replicate_zero,
    Nat.mul_zero, Nat.ofDigitChars_ten_toDigits]

/-- Digits that go on from a greater value have a greater one. -/
theorem digitsValue_mono {start start' : Nat} (below : start ≤ start') (digits : List Char) :
    digitsValue start digits ≤ digitsValue start' digits := by
  induction digits generalizing start start' with
  | nil => exact below
  | cons c digits ih => exact ih (by omega : 10 * start + digitValue c ≤ 10 * start' + digitValue c)

/-- The value of digits is not below the one that they go on from. -/
theorem le_digitsValue (start : Nat) (digits : List Char) : start ≤ digitsValue start digits := by
  induction digits generalizing start with
  | nil => exact Nat.le_refl _
  | cons c digits ih => exact Nat.le_trans (by omega) (ih (10 * start + digitValue c))

/-- Digits stand for a number of no more places. -/
theorem digitsValue_lt {digits : List Char} (all : ∀ c ∈ digits, c.isDigit) (start : Nat) :
    digitsValue start digits < (start + 1) * 10 ^ digits.length := by
  induction digits generalizing start with
  | nil => simp [digitsValue]
  | cons c rest ih =>
      obtain ⟨digit, others⟩ := List.forall_mem_cons.mp all
      have below := digitValue_lt digit
      calc digitsValue start (c :: rest)
          = digitsValue (10 * start + digitValue c) rest := rfl
        _ < (10 * start + digitValue c + 1) * 10 ^ rest.length := ih others _
        _ ≤ (start + 1) * 10 * 10 ^ rest.length := Nat.mul_le_mul_right _ (by omega)
        _ = (start + 1) * 10 ^ (c :: rest).length := by
            rw [List.length_cons, Nat.pow_succ', Nat.mul_assoc]

end StrategyDesk
