import StrategyDesk.Json.Printer
import StrategyDesk.Json.Reader
import StrategyDesk.Proofs.Number.Digits
import StrategyDesk.Proofs.Number.Shortest

/-!
# Numbers in documents

Every number is written as a text that reading takes for one number, wherever in a document it
stands.  An integer of 64 bits is read as it was; a float is read as a word that is scaled by a
power of ten, where the word and the power stand for no more than the decimal that was written.

## Main Definitions

* `Json.Ends` — a text that does not go on with a number
* `Json.ReadsAs` — a text is read as a number, wherever it stands

## Main Statements

* `Json.gather_le` — a word holds no more than the digits that were gathered into it
* `Json.readNumber?_toDigits` — an integer is read back
* `Json.exists_readsAs_format` — the text of a decimal is read as a float, made of no more than the
  decimal
-/

namespace StrategyDesk

namespace Json

/-! ## Parts of a number -/

/-- The text does not go on with a number. -/
def Ends (text : List Char) : Prop :=
  ∀ c ∈ text.head?, c.isDigit = false ∧ c ≠ '.' ∧ c ≠ 'e' ∧ c ≠ 'E'

theorem Ends.noDigit {text : List Char} (ends : Ends text) : NoDigit text :=
  fun c member => (ends c member).1

/-- What a number may begin with: digits, of which no zero leads others. -/
structure IsWhole (digits : List Char) : Prop where
  nonempty : digits ≠ []
  all : ∀ c ∈ digits, c.isDigit
  noLeadingZero : digits.head? = some '0' → digits = ['0']

theorem isWhole_toDigits (n : Nat) : IsWhole (Nat.toDigits 10 n) where
  nonempty := Nat.toDigits_ne_nil
  all := isDigit_toDigits n
  noLeadingZero := by
    intro zero
    by_cases positive : n = 0
    · rw [positive, Nat.toDigits_zero]
    · exact absurd zero (head?_toDigits positive)

/-- Zeros may follow digits that no zero leads. -/
theorem IsWhole.append_zeros {digits : List Char} (whole : IsWhole digits)
    (positive : digits.head? ≠ some '0') (zeros : Nat) :
    IsWhole (digits ++ List.replicate zeros '0') where
  nonempty := by simp [whole.nonempty]
  all c member := by
    rcases List.mem_append.mp member with digit | zero
    · exact whole.all c digit
    · rw [List.eq_of_mem_replicate zero]
      decide
  noLeadingZero zero := by
    refine absurd ?_ positive
    simpa [List.head?_append, whole.nonempty] using zero

/-- Behind enough zeros, digits have some left of the point, of which no zero leads others. -/
theorem IsWhole.padded {digits : List Char} (whole : IsWhole digits) {places : Nat}
    (some : 0 < places) :
    let padded := List.replicate (places + 1 - digits.length) '0' ++ digits
    places < padded.length ∧ (∀ c ∈ padded, c.isDigit) ∧
      IsWhole (padded.take (padded.length - places)) := by
  intro padded
  have length : places < padded.length := by simp [padded]; omega
  have all : ∀ c ∈ padded, c.isDigit := by
    intro c member
    rcases List.mem_append.mp member with zero | digit
    · rw [List.eq_of_mem_replicate zero]
      decide
    · exact whole.all c digit
  refine ⟨length, all, ?_, fun c member => all c (List.mem_of_mem_take member), fun zero => ?_⟩
  · exact List.ne_nil_of_length_pos (by rw [List.length_take]; omega)
  · rw [List.head?_take, if_neg (by omega)] at zero
    rcases Nat.lt_or_ge places digits.length with long | short
    · have unpadded : padded = digits := by
        have none : places + 1 - digits.length = 0 := by omega
        simp [padded, none]
      rw [unpadded] at zero
      have small : digits.length = 1 := congrArg List.length (whole.noLeadingZero zero)
      omega
    · have one : padded.length - places = 1 := by simp [padded]; omega
      rw [one, List.take_one, zero]
      rfl

/-- A number is read from its digits on. -/
theorem readNumber?_of_isWhole {digits rest : List Char} (whole : IsWhole digits)
    (ends : NoDigit rest) (negative : Bool) :
    readNumber? negative (digits ++ rest) = readFraction? negative digits rest := by
  have run := takeWhile_digits whole.all ends
  have after := dropWhile_digits whole.all ends
  unfold readNumber?
  split
  · next text same =>
    have zero : digits = ['0'] := by
      cases digits with
      | nil => exact absurd rfl whole.nonempty
      | cons c others => exact whole.noLeadingZero (congrArg some (List.cons.inj same).1)
    have others : text = rest := by
      rw [zero] at same
      exact (List.cons.inj same).2.symm
    have noRun : rest.takeWhile Char.isDigit = [] := @takeWhile_digits [] rest nofun ends
    rw [others, noRun, zero]
    rfl
  · rw [run, after, if_neg whole.nonempty]

/-- The digits of a number that a word holds are gathered into it. -/
theorem gather_eq (digits : List Char) (word taken : Nat)
    (fits : digitsValue word digits < wordSize 64) :
    gather ⟨word, 0, taken⟩ digits = ⟨digitsValue word digits, 0, taken + digits.length⟩ := by
  induction digits generalizing word taken with
  | nil => rfl
  | cons c digits ih =>
      have step : digitsValue word (c :: digits) =
          digitsValue (10 * word + digitValue c) digits := rfl
      rw [step] at fits ⊢
      have next := Nat.lt_of_le_of_lt (le_digitsValue _ digits) fits
      unfold gather
      rw [if_pos ⟨rfl, next⟩, ih _ _ fits, List.length_cons, Nat.add_right_comm, Nat.add_assoc]

/-- **A word holds no more than the digits that were gathered into it**, and every digit is either
taken or dropped. -/
theorem gather_le (digits : List Char) : ∀ {start : Gathered}, start.word < wordSize 64 →
    (gather start digits).word < wordSize 64 ∧
      (gather start digits).taken + (gather start digits).dropped =
        start.taken + start.dropped + digits.length ∧
      (gather start digits).word * 10 ^ (gather start digits).dropped ≤
        digitsValue (start.word * 10 ^ start.dropped) digits := by
  induction digits with
  | nil => exact fun fits => ⟨fits, rfl, Nat.le_refl _⟩
  | cons c digits ih =>
      intro start fits
      have step : digitsValue (start.word * 10 ^ start.dropped) (c :: digits) =
          digitsValue (10 * (start.word * 10 ^ start.dropped) + digitValue c) digits := rfl
      unfold gather
      dsimp only
      rw [step, List.length_cons]
      split
      · next taken =>
        obtain ⟨none, fits'⟩ := taken
        obtain ⟨held, count, value⟩ :=
          @ih ⟨10 * start.word + digitValue c, 0, start.taken + 1⟩ fits'
        rw [Nat.pow_zero, Nat.mul_one] at value
        rw [none, Nat.pow_zero, Nat.mul_one]
        exact ⟨held, by rw [count]; dsimp only; omega, value⟩
      · obtain ⟨held, count, value⟩ := @ih ⟨start.word, start.dropped + 1, start.taken⟩ fits
        refine ⟨held, by rw [count]; dsimp only; omega, le_trans value (digitsValue_mono ?_ digits)⟩
        dsimp only
        rw [Nat.pow_succ, ← Nat.mul_assoc]
        omega

/-- The digits of an exponent are read to their end. -/
theorem readExponent?_toDigits (exponent : Int) {rest : List Char} (ends : NoDigit rest) :
    readExponent? ((if exponent < 0 then '-' else '+') ::
      (Nat.toDigits 10 exponent.natAbs ++ rest)) = some (exponent, rest) := by
  have all := isDigit_toDigits exponent.natAbs
  have run := takeWhile_digits all ends
  have after := dropWhile_digits all ends
  have nonempty : Nat.toDigits 10 exponent.natAbs ≠ [] := Nat.toDigits_ne_nil
  have value := digitsValue_toDigits exponent.natAbs
  by_cases below : exponent < 0
  · simp [readExponent?, below, run, after, nonempty, value, abs_of_neg below]
  · simp [readExponent?, below, run, after, nonempty, value, abs_of_nonneg (not_lt.mp below)]

/-! ## Texts of floats -/

/-- Behind its sign, wherever it stands, the text is read as a number. -/
def ReadsAs (negative : Bool) (text : List Char) (number : JsonNumber) : Prop :=
  ∀ rest, Ends rest → readNumber? negative (text ++ rest) = some (number, rest)

section Floats

variable {whole fraction : List Char} (digits : IsWhole whole) (negative : Bool)

include digits

/-- A number that ends with its fraction is read as a word with a power that is not above the
digits before the point. -/
theorem exists_readsAs_point (nonempty : fraction ≠ []) (all : ∀ c ∈ fraction, c.isDigit) :
    ∃ word power, ReadsAs negative (whole ++ '.' :: fraction)
        (.float (scaleWord negative word power)) ∧
      word < wordSize 64 ∧ power ≤ whole.length := by
  let before := gather ⟨0, 0, 0⟩ whole
  obtain ⟨fits, count, -⟩ := @gather_le whole ⟨0, 0, 0⟩ (by decide)
  obtain ⟨fits', -, -⟩ := @gather_le fraction ⟨before.word, 0, 0⟩ fits
  refine ⟨_, before.dropped - (gather ⟨before.word, 0, 0⟩ fraction).taken, fun rest ends => ?_,
    fits', ?_⟩
  · have run := takeWhile_digits all ends.noDigit
    have after := dropWhile_digits all ends.noDigit
    rw [List.append_assoc, List.cons_append,
      readNumber?_of_isWhole digits (noDigit_cons (by decide) _)]
    unfold readFraction?
    simp only [run, after, if_neg nonempty, Option.bind_eq_bind, Option.bind_some]
    split
    · exact absurd rfl (ends 'e' rfl).2.2.1
    · exact absurd rfl (ends 'E' rfl).2.2.2
    · rw [if_pos (Or.inl trivial)]
  · have dropped : before.dropped ≤ whole.length := by
      show (gather ⟨0, 0, 0⟩ whole).dropped ≤ whole.length
      dsimp only at count
      omega
    omega

/-- A number with a fraction and an exponent is read as the digits that fit a word, with the power
that the others leave. -/
theorem readsAs_point_exponent (nonempty : fraction ≠ []) (all : ∀ c ∈ fraction, c.isDigit)
    (exponent : Int) :
    let before := gather ⟨0, 0, 0⟩ whole
    let gathered := gather ⟨before.word, 0, 0⟩ fraction
    ReadsAs negative (whole ++ '.' :: (fraction ++ 'e' :: (if exponent < 0 then '-' else '+') ::
      Nat.toDigits 10 exponent.natAbs))
      (.float (scaleWord negative gathered.word (before.dropped - gathered.taken + exponent))) := by
  intro before gathered rest ends
  have mark (text : List Char) : NoDigit ('e' :: text) := noDigit_cons (by decide) text
  rw [List.append_assoc, List.cons_append,
      readNumber?_of_isWhole digits (noDigit_cons (by decide) _)]
  unfold readFraction?
  simp only [List.cons_append, List.append_assoc, takeWhile_digits all (mark _),
    dropWhile_digits all (mark _), if_neg nonempty, Option.bind_eq_bind, Option.bind_some,
    readExponent?_toDigits exponent ends.noDigit]
  rfl

/-- A number with an exponent right after its digits is read as these with the exponent. -/
theorem readsAs_exponent (exponent : Int) :
    let gathered := gather ⟨0, 0, 0⟩ whole
    ReadsAs negative (whole ++ 'e' :: (if exponent < 0 then '-' else '+') ::
      Nat.toDigits 10 exponent.natAbs)
      (.float (scaleWord negative gathered.word (gathered.dropped + exponent))) := by
  intro gathered rest ends
  rw [List.append_assoc, List.cons_append,
      readNumber?_of_isWhole digits (noDigit_cons (by decide) _)]
  unfold readFraction?
  simp only [List.cons_append, Option.bind_eq_bind, Option.bind_some,
    readExponent?_toDigits exponent ends.noDigit]
  rfl

end Floats

/-- Few decimals are written out in positions: at most 16 digits stand before the point. -/
theorem exists_readsAs_positional {d : Decimal} (plain : d.digits = 0 → d.exponent = 0)
    (low : d.scientific ≤ 15) (negative : Bool) :
    ∃ word power, ReadsAs negative (d.positional true) (.float (scaleWord negative word power)) ∧
      word < wordSize 64 ∧ power ≤ 16 := by
  have digits := isWhole_toDigits d.digits
  have length : (decimalDigits d.digits).length = (Nat.toDigits 10 d.digits).length := rfl
  unfold Decimal.scientific at low
  rw [length] at low
  unfold Decimal.positional decimalDigits
  split
  · have whole : IsWhole (Nat.toDigits 10 d.digits ++ List.replicate d.exponent.toNat '0') := by
      by_cases positive : d.digits = 0
      · simpa [positive, plain positive] using digits
      · exact digits.append_zeros (head?_toDigits positive) d.exponent.toNat
    have zero : ∀ c ∈ ['0'], c.isDigit := List.forall_mem_singleton.mpr rfl
    obtain ⟨word, power, reads, fits, few⟩ := exists_readsAs_point whole negative (by simp) zero
    rw [List.length_append, List.length_replicate] at few
    exact ⟨word, power, reads, fits, by omega⟩
  · next below =>
    have some : 0 < (-d.exponent).toNat := by omega
    obtain ⟨long, all, whole⟩ := digits.padded some
    dsimp only
    have size : (List.replicate ((-d.exponent).toNat + 1 - (Nat.toDigits 10 d.digits).length) '0' ++
        Nat.toDigits 10 d.digits).length - (-d.exponent).toNat ≤ 16 := by
      rw [List.length_append, List.length_replicate]
      omega
    generalize List.replicate _ '0' ++ Nat.toDigits 10 d.digits = padded at long all whole size ⊢
    generalize (-d.exponent).toNat = places at some long whole size ⊢
    have fraction : padded.drop (padded.length - places) ≠ [] :=
      List.ne_nil_of_length_pos (by rw [List.length_drop]; omega)
    obtain ⟨word, power, reads, fits, few⟩ := exists_readsAs_point whole negative fraction
      fun c member => all c (List.mem_of_mem_drop member)
    rw [List.length_take] at few
    exact ⟨word, power, reads, fits, by omega⟩

/-- A decimal with an exponent is read as the digits that fit a word: no more than the decimal. -/
theorem exists_readsAs_withExponent (d : Decimal) (negative : Bool) :
    ∃ word power, ReadsAs negative d.withExponent (.float (scaleWord negative word power)) ∧
      word < wordSize 64 ∧ (word : ℚ) * 10 ^ power ≤ d.value := by
  obtain ⟨first, others, digits⟩ := List.exists_cons_of_ne_nil
    (Nat.toDigits_ne_nil (n := d.digits) (b := 10))
  have all := isDigit_toDigits d.digits
  have value := digitsValue_toDigits d.digits
  have scientific : d.scientific = d.exponent + others.length := by
    show d.exponent + ((Nat.toDigits 10 d.digits).length : Int) - 1 = _
    rw [digits, List.length_cons]
    push_cast
    ring
  rw [digits] at all value
  have whole : IsWhole [first] :=
    ⟨by simp, by simpa using all first List.mem_cons_self, fun zero => by simpa using zero⟩
  have one : digitsValue 0 [first] < wordSize 64 := by
    have digit : digitValue first < 10 := digitValue_lt (whole.all first List.mem_cons_self)
    exact Nat.lt_trans (by simpa [digitsValue] using digit) (by decide)
  cases others with
  | nil =>
      have text : d.withExponent = [first] ++ 'e' :: (if d.scientific < 0 then '-' else '+') ::
          Nat.toDigits 10 d.scientific.natAbs := by
        simp [Decimal.withExponent, decimalDigits, digits]
      have reads := readsAs_exponent whole negative d.scientific
      rw [← text, gather_eq [first] 0 0 one] at reads
      refine ⟨_, _, reads, one, le_of_eq ?_⟩
      rw [value, scientific, Decimal.value]
      simp
  | cons second others =>
      have text : d.withExponent = [first] ++ '.' :: ((second :: others) ++ 'e' ::
          (if d.scientific < 0 then '-' else '+') :: Nat.toDigits 10 d.scientific.natAbs) := by
        simp [Decimal.withExponent, decimalDigits, digits]
      have all' : ∀ c ∈ second :: others, c.isDigit :=
        fun c member => all c (List.mem_cons_of_mem _ member)
      have reads := readsAs_point_exponent whole negative (by simp) all' d.scientific
      rw [← text, gather_eq [first] 0 0 one] at reads
      obtain ⟨fits, count, most⟩ := @gather_le (second :: others) ⟨digitsValue 0 [first], 0, 0⟩ one
      refine ⟨_, _, reads, fits, ?_⟩
      generalize gather ⟨digitsValue 0 [first], 0, 0⟩ (second :: others) = gathered at count most ⊢
      have power : ((0 : Nat) : Int) - gathered.taken + d.scientific =
          gathered.dropped + d.exponent := by
        dsimp only at count
        omega
      rw [Nat.pow_zero, Nat.mul_one] at most
      have cast : (gathered.word : ℚ) * 10 ^ gathered.dropped ≤ d.digits := by
        exact_mod_cast le_trans most (le_of_eq value)
      rw [power, zpow_add₀ (by norm_num), zpow_natCast, ← mul_assoc]
      exact mul_le_mul_of_nonneg_right cast (by positivity)

/-- **The text of a decimal is read as a float, made of no more than the decimal**, if that is not
small. -/
theorem exists_readsAs_format {d : Decimal} (plain : d.digits = 0 → d.exponent = 0)
    (negative : Bool) :
    ∃ word power, ReadsAs negative (d.format jsonFloatLayout)
        (.float (scaleWord negative word power)) ∧
      word < wordSize 64 ∧ (power ≤ 16 ∨ (word : ℚ) * 10 ^ power ≤ d.value) := by
  unfold Decimal.format jsonFloatLayout
  dsimp only
  split
  · next inside =>
    obtain ⟨word, power, reads, fits, few⟩ := exists_readsAs_positional plain inside.2 negative
    exact ⟨word, power, reads, fits, Or.inl few⟩
  · obtain ⟨word, power, reads, fits, most⟩ := exists_readsAs_withExponent d negative
    exact ⟨word, power, reads, fits, Or.inr most⟩

/-! ## Texts of integers -/

/-- Digits that a word holds are read as an integer when nothing follows them. -/
theorem readFraction?_end {whole rest : List Char} (fits : digitsValue 0 whole < wordSize 64)
    (ends : Ends rest) (negative : Bool) :
    readFraction? negative whole rest = some (
      if !negative then .integer (digitsValue 0 whole)
      else if digitsValue 0 whole = 0 ∨ wordSize 63 < digitsValue 0 whole then
        .float (Binary64.ofRatio true (digitsValue 0 whole) 1)
      else .integer (-(digitsValue 0 whole : Int)), rest) := by
  cases rest with
  | nil =>
      cases negative <;> simp [readFraction?, gather_eq whole 0 0 fits]
      split <;> rfl
  | cons c rest =>
      obtain ⟨-, noPoint, noMark, noMark'⟩ := ends c rfl
      cases negative <;> simp [readFraction?, gather_eq whole 0 0 fits, noPoint, noMark, noMark']
      split <;> rfl

/-- The digits of a word are read as an integer. -/
theorem readNumber?_toDigits {n : Nat} (fits : n < wordSize 64) (negative : Bool) {rest : List Char}
    (ends : Ends rest) :
    readNumber? negative (Nat.toDigits 10 n ++ rest) = some (
      if !negative then .integer n
      else if n = 0 ∨ wordSize 63 < n then .float (Binary64.ofRatio true n 1)
      else .integer (-(n : Int)), rest) := by
  have value := digitsValue_toDigits n
  rw [readNumber?_of_isWhole (isWhole_toDigits n) ends.noDigit,
    readFraction?_end (by rwa [value]) ends, value]

end Json

end StrategyDesk
