import Mathlib.Algebra.Group.Nat.Defs
import StrategyDesk.Proofs.Json.RoundTrips
import StrategyDesk.Proofs.Text.Blanks
import StrategyDesk.Timestamp

/-!
# Moments and their texts

Every moment that the calendar can show is read back from its text, and no text gives another.
The calendar is turned around era by era: the day of an era gives a year that begins in March, and
the day of that year a month.

## Main Definitions

* `Timestamp.IsMoment` — the moments that texts can give

## Main Statements

* `Timestamp.daysFromDate_dateFromDays` — a day is counted to its own date
* `Timestamp.parse?_text` — a moment is read back from its text
* `Timestamp.isMoment_of_parse?` — a text gives such a moment
-/

namespace StrategyDesk

namespace Timestamp

/-! ## The calendar -/

/-- The day of a year lies within the year, whatever day of an era it is. -/
theorem dayOfYear_bounds {d y : Int} (low : 0 ≤ d) (high : d < 146097)
    (year : y = (d - d / 1460 + d / 36524 - d / 146096) / 365) :
    0 ≤ d - (365 * y + y / 4 - y / 100) ∧ d - (365 * y + y / 4 - y / 100) < 366 := by
  -- the quotients by centuries take few values, and with these fixed the rest is linear
  have centuries :
      d / 36524 = 0 ∨ d / 36524 = 1 ∨ d / 36524 = 2 ∨ d / 36524 = 3 ∨ d / 36524 = 4 := by omega
  have hundreds : y / 100 = 0 ∨ y / 100 = 1 ∨ y / 100 = 2 ∨ y / 100 = 3 := by omega
  have last : d / 146096 = 0 ∨ d / 146096 = 1 := by omega
  rcases centuries with c | c | c | c | c <;> rcases hundreds with h | h | h | h <;>
    rcases last with l | l <;> rw [c, l] at year <;> rw [h] <;> omega

/-- The month and the day of a day of a year that begins in March. -/
theorem month_eq {dayOfYear : Int} (low : 0 ≤ dayOfYear) (high : dayOfYear < 366) :
    let shifted := (5 * dayOfYear + 2) / 153
    let day := dayOfYear - (153 * shifted + 2) / 5 + 1
    0 ≤ shifted ∧ shifted < 12 ∧ 1 ≤ day ∧ day ≤ 31 ∧
      (153 * shifted + 2) / 5 + day - 1 = dayOfYear := by
  intro shifted day
  refine ⟨by omega, by omega, by omega, by omega, by omega⟩

/-- The days to a date of an era, its years beginning in March. -/
theorem daysFromDate_eq {era year shifted day : Int} (yearLow : 0 ≤ year) (yearHigh : year < 400)
    (shiftLow : 0 ≤ shifted) (shiftHigh : shifted < 12) (dayLow : 1 ≤ day) :
    let month := if shifted < 10 then shifted + 3 else shifted - 9
    daysFromDate (year + era * 400 + (if month ≤ 2 then 1 else 0)) month.toNat day.toNat =
      era * 146097 + (year * 365 + year / 4 - year / 100 + ((153 * shifted + 2) / 5 + day - 1)) -
        719468 := by
  have eraOf : (year + era * 400).fdiv 400 = era := by
    rw [Int.fdiv_eq_ediv_of_nonneg _ (by decide)]
    omega
  have yearOf : year + era * 400 - era * 400 = year := by omega
  have dayOf : ((day.toNat : Nat) : Int) = day := Int.toNat_of_nonneg (by omega)
  intro month
  unfold daysFromDate
  by_cases spring : shifted < 10
  · have same : month = shifted + 3 := if_pos spring
    have late : ¬month ≤ 2 := by omega
    have late' : ¬month.toNat ≤ 2 := by omega
    have late'' : month.toNat > 2 := by omega
    have monthOf : ((month.toNat : Nat) : Int) + -3 = shifted := by omega
    simp only [if_neg late, if_neg late', if_pos late'', Int.add_zero, eraOf, yearOf, dayOf,
      monthOf]
  · have same : month = shifted - 9 := if_neg spring
    have early : month ≤ 2 := by omega
    have early' : month.toNat ≤ 2 := by omega
    have early'' : ¬month.toNat > 2 := by omega
    have monthOf : ((month.toNat : Nat) : Int) + 9 = shifted := by omega
    have before : year + era * 400 + 1 - 1 = year + era * 400 := by omega
    simp only [if_pos early, if_pos early', if_neg early'', before, eraOf, yearOf, dayOf, monthOf]

/-- **A day is counted to its own date**, which names a month and a day. -/
theorem daysFromDate_dateFromDays {days year : Int} {month day : Nat}
    (date : dateFromDays days = (year, month, day)) :
    daysFromDate year month day = days ∧ (1 ≤ month ∧ month ≤ 12) ∧ (1 ≤ day ∧ day ≤ 31) := by
  have era : (days + 719468).fdiv 146097 = (days + 719468) / 146097 :=
    Int.fdiv_eq_ediv_of_nonneg _ (by decide)
  unfold dateFromDays at date
  simp only [era] at date
  generalize same : days + 719468 - (days + 719468) / 146097 * 146097 = d at date
  have low : 0 ≤ d := by omega
  have high : d < 146097 := by omega
  generalize ofEra : (d - d / 1460 + d / 36524 - d / 146096) / 365 = y at date
  have yearLow : 0 ≤ y := by omega
  have yearHigh : y < 400 := by omega
  obtain ⟨dayLow, dayHigh⟩ := dayOfYear_bounds low high ofEra.symm
  generalize dayOfYear : d - (365 * y + y / 4 - y / 100) = n at dayLow dayHigh date
  obtain ⟨shiftLow, shiftHigh, dayPos, dayMax, back⟩ := month_eq dayLow dayHigh
  generalize (5 * n + 2) / 153 = m at *
  generalize n - (153 * m + 2) / 5 + 1 = k at *
  obtain ⟨rfl, rfl, rfl⟩ : _ = year ∧ _ = month ∧ _ = day := by simpa using date
  refine ⟨?_, ⟨?_, ?_⟩, by omega, by omega⟩
  · rw [daysFromDate_eq yearLow yearHigh shiftLow shiftHigh dayPos]
    omega
  · split <;> omega
  · split <;> omega

/-! ## Reading digits -/

theorem skipBlanks_of_isDigit {c : Char} (digit : c.isDigit) (text : List Char) :
    skipBlanks (c :: text) = c :: text := by
  unfold skipBlanks
  rw [List.dropWhile_cons_of_neg (by simp [isBlank_of_isDigit digit])]

section Digits

variable {digits rest : List Char}

/-- Digits are read, if as many are allowed and no other follows where more are. -/
theorem readDigits?_digits (nonempty : digits ≠ []) (all : ∀ c ∈ digits, c.isDigit) {width : Nat}
    (fits : digits.length ≤ width) (ends : width = digits.length ∨ NoDigit rest) :
    readDigits? width (digits ++ rest) = some (digitsValue 0 digits, rest) := by
  have start : skipBlanks (digits ++ rest) = digits ++ rest := by
    cases digits with
    | nil => exact absurd rfl nonempty
    | cons c digits => exact skipBlanks_of_isDigit (all c List.mem_cons_self) _
  have run : ((digits ++ rest).take width).takeWhile Char.isDigit = digits := by
    rw [List.take_append, List.take_of_length_le fits]
    refine takeWhile_digits all ?_
    rcases ends with exactly | stop
    · rw [exactly, Nat.sub_self]
      exact noDigit_nil
    · cases rest with
      | nil => rw [List.take_nil]; exact noDigit_nil
      | cons c rest =>
          cases width - digits.length with
          | zero => exact noDigit_nil
          | succ n => exact noDigit_cons (stop c rfl) _
  unfold readDigits?
  simp only [start, run, if_neg nonempty, List.drop_left]

end Digits

/-- A number is written in digits of its value, with as many as are wanted if it has not more. -/
theorem padDigits_spec (width n : Nat) :
    (padDigits width n).toList ≠ [] ∧ (∀ c ∈ (padDigits width n).toList, c.isDigit) ∧
      digitsValue 0 (padDigits width n).toList = n ∧
      (0 < width → n < 10 ^ width → (padDigits width n).toList.length = width) := by
  have text : (padDigits width n).toList =
      List.replicate (width - (Nat.toDigits 10 n).length) '0' ++ Nat.toDigits 10 n :=
    String.toList_ofList
  rw [text]
  refine ⟨by simp [Nat.toDigits_ne_nil], fun c member => ?_, digitsValue_zeros_toDigits _ n, ?_⟩
  · rcases List.mem_append.mp member with zero | digit
    · rw [List.eq_of_mem_replicate zero]
      decide
    · exact isDigit_toDigits n c digit
  · intro positive fits
    have short := (Nat.length_toDigits_le_iff (by decide) positive).mpr fits
    rw [List.length_append, List.length_replicate]
    omega

/-- Two digits are read as they were written. -/
theorem readDigits?_padDigits {n : Nat} (fits : n < 100) (rest : List Char) :
    readDigits? 2 ((padDigits 2 n).toList ++ rest) = some (n, rest) := by
  obtain ⟨nonempty, all, value, length⟩ := padDigits_spec 2 n
  have two := length (by decide) fits
  rw [readDigits?_digits nonempty all (Nat.le_of_eq two) (Or.inl two.symm), value]

theorem readYear?_of_isDigit {c : Char} (digit : c.isDigit) (rest : List Char) :
    readYear? (c :: rest) = (readDigits? 4 (c :: rest)).map fun (n, rest) => ((n : Int), rest) := by
  unfold readYear?
  rw [skipBlanks_of_isDigit digit]
  split
  · next same => exact absurd digit ((List.cons.inj same).1 ▸ by decide)
  · next same => exact absurd digit ((List.cons.inj same).1 ▸ by decide)
  · rfl

theorem readYear?_sign {c : Char} (digit : c.isDigit) (rest : List Char) (below : Bool) :
    readYear? ((if below then '-' else '+') :: c :: rest) =
      (readDigits? (c :: rest).length (c :: rest)).map fun (n, rest) =>
        (if below then -(n : Int) else n, rest) := by
  cases below with
  | true =>
      have start : skipBlanks ('-' :: c :: rest) = '-' :: c :: rest := rfl
      simp [readYear?, start, digit]
  | false =>
      have start : skipBlanks ('+' :: c :: rest) = '+' :: c :: rest := rfl
      simp [readYear?, start, digit]

/-- A year is read as it was written, up to the dash behind it. -/
theorem readYear?_yearText (year : Int) (rest : List Char) :
    readYear? ((yearText year).toList ++ '-' :: rest) = some (year, '-' :: rest) := by
  unfold yearText
  split
  · next plain =>
    obtain ⟨nonempty, all, value, length⟩ := padDigits_spec 4 year.toNat
    have four := length (by decide) (by omega)
    have read := readDigits?_digits nonempty all (Nat.le_of_eq four)
      (Or.inl four.symm : 4 = _ ∨ NoDigit ('-' :: rest))
    obtain ⟨c, others, digits⟩ := List.exists_cons_of_ne_nil nonempty
    rw [value, digits, List.cons_append] at read
    rw [digits] at all
    rw [digits, List.cons_append, readYear?_of_isDigit (all c List.mem_cons_self), read]
    have back : ((year.toNat : Nat) : Int) = year := Int.toNat_of_nonneg plain.1
    simp [back]
  · next signed =>
    obtain ⟨nonempty, all, value, -⟩ := padDigits_spec 4 year.natAbs
    have read := readDigits?_digits nonempty all
      (show _ ≤ ((padDigits 4 year.natAbs).toList ++ '-' :: rest).length by simp)
      (Or.inr (noDigit_cons (by decide) rest : NoDigit ('-' :: rest)))
    obtain ⟨c, others, digits⟩ := List.exists_cons_of_ne_nil nonempty
    rw [value, digits, List.cons_append] at read
    rw [digits] at all
    have text : ((if year < 0 then "-" else "+") ++ padDigits 4 year.natAbs).toList ++ '-' :: rest =
        (if decide (year < 0) then '-' else '+') :: c :: (others ++ '-' :: rest) := by
      rw [String.toList_append, digits]
      by_cases below : year < 0 <;> simp [below]
    rw [text, readYear?_sign (all c List.mem_cons_self), read]
    have signed :
        (if decide (year < 0) = true then -(year.natAbs : Int) else year.natAbs) = year := by
      simp only [decide_eq_true_eq]
      split <;> omega
    exact congrArg (fun year => some (year, '-' :: rest)) signed

theorem readMark?_self {mark : Char} (visible : isBlank mark = false) (rest : List Char) :
    readMark? mark (mark :: rest) = some rest := by
  have start : skipBlanks (mark :: rest) = mark :: rest := by
    unfold skipBlanks
    rw [List.dropWhile_cons_of_neg (by simp [visible])]
  unfold readMark?
  simp only [start, if_pos trivial]

/-- Digits after a point are the nanoseconds that they were written for. -/
theorem readFraction?_padDigits {places n : Nat} (some : 0 < places) (few : places ≤ 9)
    (fits : n < 10 ^ places) {rest : List Char} (ends : NoDigit rest) :
    readFraction? ('.' :: ((padDigits places n).toList ++ rest)) =
      Option.some (n * 10 ^ (9 - places), rest) := by
  obtain ⟨nonempty, all, value, length⟩ := padDigits_spec places n
  have long := length some fits
  have kept : (padDigits places n).toList.take 9 = (padDigits places n).toList :=
    List.take_of_length_le (by omega)
  unfold readFraction?
  simp only [takeWhile_digits all ends, dropWhile_digits all ends, if_neg nonempty, kept, value,
    long]
  rfl

/-- Nanoseconds are read as they were written. -/
theorem readFraction?_fractionText {nanos : Nat} (fits : nanos < nanosPerSecond) :
    readFraction? ((fractionText nanos).toList ++ ['Z']) = some (nanos, ['Z']) := by
  have ends : NoDigit ['Z'] := noDigit_cons (by decide) []
  have small : nanos < 1000000000 := fits
  have point (text : String) : ("." ++ text).toList = '.' :: text.toList := by simp
  unfold fractionText
  split
  · next zero => rw [zero]; rfl
  split
  · rw [point, List.cons_append, readFraction?_padDigits (by decide) (by decide) (by omega) ends]
    have back : nanos / 1000000 * 10 ^ (9 - 3) = nanos := by omega
    rw [back]
  split
  · rw [point, List.cons_append, readFraction?_padDigits (by decide) (by decide) (by omega) ends]
    have back : nanos / 1000 * 10 ^ (9 - 6) = nanos := by omega
    rw [back]
  · rw [point, List.cons_append, readFraction?_padDigits (by decide) (by decide) (by omega) ends]
    have back : nanos * 10 ^ (9 - 9) = nanos := by omega
    rw [back]

/-- A fraction is shorter than a second. -/
theorem readFraction?_lt {text rest : List Char} {nanos : Nat}
    (read : readFraction? text = some (nanos, rest)) : nanos < nanosPerSecond := by
  unfold readFraction? at read
  split at read
  · next after =>
    extract_lets run kept at read
    split at read
    · cases read
    · obtain ⟨rfl, -⟩ := Prod.mk.inj (Option.some.inj read)
      have all : ∀ c ∈ kept, c.isDigit := fun c member =>
        List.mem_takeWhile_imp (List.mem_of_mem_take member)
      have short : kept.length ≤ 9 := List.length_take_le _ _
      have value := digitsValue_lt all 0
      calc digitsValue 0 kept * 10 ^ (9 - kept.length)
          < (0 + 1) * 10 ^ kept.length * 10 ^ (9 - kept.length) :=
            Nat.mul_lt_mul_of_pos_right value (Nat.pow_pos (by decide))
        _ = 10 ^ 9 := by rw [Nat.zero_add, Nat.one_mul, ← Nat.pow_add, Nat.add_sub_cancel' short]
  · obtain ⟨rfl, -⟩ := Prod.mk.inj (Option.some.inj read)
    decide

/-- An offset is a number of whole minutes. -/
theorem readOffset?_minutes {text rest : List Char} {offset : Int}
    (read : readOffset? text = some (offset, rest)) : offset % 60 = 0 := by
  unfold readOffset? at read
  extract_lets text at read
  generalize text = text at read
  split at read
  · cases read
    rfl
  split at read
  · cases read
    rfl
  · cases read
    rfl
  · split at read
    · split at read
      · split at read
        · extract_lets size at read
          split at read
          · obtain ⟨rfl, -⟩ := Prod.mk.inj (Option.some.inj read)
            have minutes : size % 60 = 0 := by omega
            split <;> omega
          · cases read
        · cases read
      · cases read
    · cases read
  · cases read

/-! ## Moments -/

/-- A moment within the years that texts can give; a leap second ends a minute. -/
structure IsMoment (t : Timestamp) : Prop where
  year : isYear (dateFromDays (t.seconds.fdiv 86400)).1 = true
  nanos : t.nanos < 2 * nanosPerSecond
  leap : nanosPerSecond ≤ t.nanos → t.seconds % 60 = 59

/-- The characters of a moment's text, for its date, its second of the day and its nanoseconds. -/
theorem toList_text (t : Timestamp) {year : Int} {month day ofDay : Nat}
    (date : dateFromDays (t.seconds.fdiv 86400) = (year, month, day))
    (clock : (t.seconds - t.seconds.fdiv 86400 * 86400).toNat = ofDay) :
    t.text.toList = (yearText year).toList ++ '-' :: ((padDigits 2 month).toList ++
      '-' :: ((padDigits 2 day).toList ++ 'T' :: ((padDigits 2 (ofDay / 3600)).toList ++
      ':' :: ((padDigits 2 (ofDay / 60 % 60)).toList ++
      ':' :: ((padDigits 2 (ofDay % 60 + t.nanos / nanosPerSecond)).toList ++
      ((fractionText (t.nanos % nanosPerSecond)).toList ++ ['Z'])))))) := by
  simp [text, date, clock]

/-- **A moment is read back from its text.** -/
theorem parse?_text {t : Timestamp} (moment : t.IsMoment) : parse? t.text = some t := by
  obtain ⟨inRange, few, leap⟩ := moment
  obtain ⟨seconds, nanos⟩ := t
  dsimp only at inRange few leap
  obtain ⟨⟨year, month, day⟩, date⟩ : ∃ parts, dateFromDays (seconds.fdiv 86400) = parts := ⟨_, rfl⟩
  obtain ⟨back, ⟨monthLow, monthHigh⟩, dayLow, dayHigh⟩ := daysFromDate_dateFromDays date
  rw [date] at inRange
  have fdiv : seconds.fdiv 86400 = seconds / 86400 := Int.fdiv_eq_ediv_of_nonneg _ (by decide)
  generalize clock : (seconds - seconds.fdiv 86400 * 86400).toNat = ofDay
  have ofDayOf : seconds = seconds.fdiv 86400 * 86400 + ofDay := by omega
  have ofDayHigh : ofDay < 86400 := by omega
  have sizes : nanos < 2000000000 ∧ (1000000000 ≤ nanos → ofDay % 60 = 59) := by
    refine ⟨few, fun second => ?_⟩
    have last := leap second
    omega
  have wholes : nanos / nanosPerSecond = nanos / 1000000000 := rfl
  have parts : nanos % nanosPerSecond = nanos % 1000000000 := rfl
  have fraction : nanos % nanosPerSecond < nanosPerSecond := Nat.mod_lt _ (by decide)
  have dated : isDate year month day = true := by
    unfold isDate
    simp only [back, date, decide_eq_true monthLow, decide_eq_true monthHigh,
      decide_eq_true dayLow, beq_self_eq_true, Bool.and_self]
  have known : ¬((!isDate year month day || !isYear year) = true) := by simp [dated, inRange]
  have inDay : ¬(ofDay / 3600 > 23 ∨ ofDay / 60 % 60 > 59 ∨
      ofDay % 60 + nanos / nanosPerSecond > 60) := by omega
  have ended : ¬((!(skipBlanks []).isEmpty) = true) := by decide
  have size : nanosPerSecond = 1000000000 := rfl
  have second : ofDay % 60 + nanos / nanosPerSecond < 100 := by omega
  have text := toList_text ⟨seconds, nanos⟩ date clock
  dsimp only at text
  -- One step for each part of the text, from the year to the offset.
  unfold parse?
  rw [text]
  refine Option.bind_eq_some_iff.mpr ⟨_, readYear?_yearText year _, ?_⟩
  refine Option.bind_eq_some_iff.mpr ⟨_, readMark?_self (by decide) _, ?_⟩
  refine Option.bind_eq_some_iff.mpr ⟨_, readDigits?_padDigits (by omega) _, ?_⟩
  refine Option.bind_eq_some_iff.mpr ⟨_, readMark?_self (by decide) _, ?_⟩
  refine Option.bind_eq_some_iff.mpr ⟨_, readDigits?_padDigits (by omega) _, ?_⟩
  refine Option.bind_eq_some_iff.mpr ⟨_, rfl, ?_⟩
  refine Option.bind_eq_some_iff.mpr ⟨_, readDigits?_padDigits (by omega) _, ?_⟩
  refine Option.bind_eq_some_iff.mpr ⟨_, readMark?_self (by decide) _, ?_⟩
  refine Option.bind_eq_some_iff.mpr ⟨_, readDigits?_padDigits (by omega) _, ?_⟩
  refine Option.bind_eq_some_iff.mpr ⟨_, readMark?_self (by decide) _, ?_⟩
  refine Option.bind_eq_some_iff.mpr ⟨_, readDigits?_padDigits second _, ?_⟩
  refine Option.bind_eq_some_iff.mpr ⟨_, readFraction?_fractionText fraction, ?_⟩
  refine Option.bind_eq_some_iff.mpr ⟨_, (by decide : readOffset? ['Z'] = some (0, [])), ?_⟩
  dsimp only
  rw [if_neg ended, if_neg known, if_neg inDay, back]
  have total : seconds.fdiv 86400 * 86400 + (ofDay / 3600 : Nat) * 3600 +
      (ofDay / 60 % 60 : Nat) * 60 + ((if ofDay % 60 + nanos / nanosPerSecond = 60 then 59
        else ofDay % 60 + nanos / nanosPerSecond : Nat) : Int) - 0 = seconds := by
    split <;> omega
  rw [total, date, inRange]
  refine congrArg some (Timestamp.mk.injEq .. |>.mpr ⟨rfl, ?_⟩)
  split <;> omega

/-- **Every moment that a text gives is one.** -/
theorem isMoment_of_parse? {text : String} {t : Timestamp} (read : parse? text = some t) :
    t.IsMoment := by
  unfold parse? at read
  obtain ⟨⟨year, _⟩, -, read⟩ := Option.bind_eq_some_iff.mp read
  obtain ⟨_, -, read⟩ := Option.bind_eq_some_iff.mp read
  obtain ⟨⟨month, _⟩, -, read⟩ := Option.bind_eq_some_iff.mp read
  obtain ⟨_, -, read⟩ := Option.bind_eq_some_iff.mp read
  obtain ⟨⟨day, _⟩, -, read⟩ := Option.bind_eq_some_iff.mp read
  obtain ⟨_, -, read⟩ := Option.bind_eq_some_iff.mp read
  obtain ⟨⟨hour, _⟩, -, read⟩ := Option.bind_eq_some_iff.mp read
  obtain ⟨_, -, read⟩ := Option.bind_eq_some_iff.mp read
  obtain ⟨⟨minute, _⟩, -, read⟩ := Option.bind_eq_some_iff.mp read
  obtain ⟨_, -, read⟩ := Option.bind_eq_some_iff.mp read
  obtain ⟨⟨second, _⟩, -, read⟩ := Option.bind_eq_some_iff.mp read
  obtain ⟨⟨nanos, _⟩, fraction, read⟩ := Option.bind_eq_some_iff.mp read
  obtain ⟨⟨offset, _⟩, shift, read⟩ := Option.bind_eq_some_iff.mp read
  have short := readFraction?_lt fraction
  have minutes := readOffset?_minutes shift
  dsimp only at read
  generalize total : daysFromDate year month day * 86400 + (hour : Int) * 3600 + minute * 60 +
    (if second = 60 then 59 else second : Nat) - offset = seconds at read
  split at read
  · cases read
  split at read
  · cases read
  split at read
  · cases read
  split at read
  · cases read
  · next inRange =>
    cases read
    refine ⟨by simpa using inRange, ?_, ?_⟩
    · dsimp only
      split <;> omega
    · intro long
      dsimp only at long ⊢
      by_cases leap : second = 60
      · rw [if_pos leap] at total
        omega
      · rw [if_neg leap] at long
        omega

end Timestamp

/-- A moment is read back from its document. -/
theorem Wire.roundTrips_timestamp {t : Timestamp} (moment : t.IsMoment) : Wire.RoundTrips t := by
  have read : (some t.text).bind Timestamp.parse? = some t := by
    rw [Option.bind_some, Timestamp.parse?_text moment]
  exact ⟨read, ⟨True.intro, List.forall_mem_nil _⟩⟩

end StrategyDesk
