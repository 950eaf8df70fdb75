import Mathlib.Data.List.DropRight
import StrategyDesk.Text.Blank

/-!
# Trimmed texts

Trimming a text takes all blanks from its ends, so that nothing is left to take when it is trimmed
again.

## Main Statements

* `trim_trim` — a trimmed text is kept by trimming
* `trimChars_of_visible`, `trimChars_eq_nil` — a text without blanks is kept by it too, and of
  blanks alone nothing is left
* `trimChars_padded` — a text with visible characters at its ends is kept between blanks
-/

namespace StrategyDesk

/-- A digit is no blank. -/
theorem isBlank_of_isDigit {c : Char} (digit : c.isDigit) : isBlank c = false := by
  have low : 48 ≤ c.toNat ∧ c.toNat ≤ 57 := by
    have bounds : 48 ≤ c.val ∧ c.val ≤ 57 := by simpa [Char.isDigit] using digit
    exact ⟨bounds.1, bounds.2⟩
  unfold isBlank
  simp
  omega

/-- What is left when blanks are dropped from the front does not begin with one, nor does any text
that it begins with. -/
theorem dropWhile_isBlank_eq_self {text start : List Char}
    (begins : start <+: text.dropWhile isBlank) : start.dropWhile isBlank = start := by
  cases start with
  | nil => rfl
  | cons c rest =>
      obtain ⟨later, whole⟩ := begins
      have visible := List.head?_dropWhile_not isBlank text
      rw [← whole] at visible
      exact List.dropWhile_cons_of_neg (by simpa using visible)

theorem trimChars_trimChars (text : List Char) : trimChars (trimChars text) = trimChars text := by
  have front : (trimChars text).dropWhile isBlank = trimChars text :=
    dropWhile_isBlank_eq_self (List.rdropWhile_prefix isBlank (text.dropWhile isBlank))
  calc trimChars (trimChars text)
      = ((trimChars text).dropWhile isBlank).rdropWhile isBlank := rfl
    _ = (trimChars text).rdropWhile isBlank := by rw [front]
    _ = trimChars text := List.rdropWhile_idempotent isBlank (text.dropWhile isBlank)

/-- **A trimmed text is kept by trimming.** -/
theorem trim_trim (text : String) : trim (trim text) = trim text := by
  unfold trim
  rw [String.toList_ofList, trimChars_trimChars]

/-- A text without blanks is kept by trimming. -/
theorem trimChars_of_visible {text : List Char} (visible : ∀ c ∈ text, isBlank c = false) :
    trimChars text = text := by
  have front : text.dropWhile isBlank = text := by
    refine List.dropWhile_eq_self_iff.mpr fun nonempty blank => ?_
    rw [visible _ (List.getElem_mem nonempty)] at blank
    cases blank
  have back : text.rdropWhile isBlank = text := by
    refine List.rdropWhile_eq_self_iff.mpr fun nonempty blank => ?_
    rw [visible _ (List.getLast_mem nonempty)] at blank
    cases blank
  calc trimChars text
      = (text.dropWhile isBlank).rdropWhile isBlank := rfl
    _ = text := by rw [front, back]

/-- Trimming leaves nothing of blanks alone. -/
theorem trimChars_eq_nil {text : List Char} :
    trimChars text = [] ↔ ∀ c ∈ text, isBlank c = true := by
  have trimmed : trimChars text = (text.dropWhile isBlank).rdropWhile isBlank := rfl
  rw [trimmed, List.rdropWhile_eq_nil_iff]
  constructor
  · intro blank
    have none : text.dropWhile isBlank = [] := by
      cases left : text.dropWhile isBlank with
      | nil => rfl
      | cons c rest =>
          have visible := List.head?_dropWhile_not isBlank text
          rw [left] at blank visible
          have first : isBlank c = false := by simpa using visible
          rw [blank c List.mem_cons_self] at first
          cases first
    exact List.dropWhile_eq_nil_iff.mp none
  · intro blank c member
    exact blank c ((List.dropWhile_suffix isBlank).mem member)

/-- Trimming takes characters away and leaves the order of the others. -/
theorem trimChars_sublist (text : List Char) : (trimChars text).Sublist text :=
  (List.rdropWhile_prefix isBlank (text.dropWhile isBlank)).sublist.trans
    (List.dropWhile_suffix isBlank).sublist

/-! ## The ends of a text -/

/-- The characters at both ends of a text are no blanks. -/
structure HasVisibleEnds (text : List Char) : Prop where
  first : ∀ c ∈ text.head?, isBlank c = false
  last : ∀ c ∈ text.getLast?, isBlank c = false

/-- A trimmed text has no blanks at its ends. -/
theorem hasVisibleEnds_trimChars (text : List Char) : HasVisibleEnds (trimChars text) := by
  have back : trimChars text = (text.dropWhile isBlank).rdropWhile isBlank := rfl
  constructor
  · intro c first
    have kept := dropWhile_isBlank_eq_self
      (back ▸ List.rdropWhile_prefix isBlank (text.dropWhile isBlank))
    rw [← kept] at first
    have visible := List.head?_dropWhile_not isBlank (trimChars text)
    rw [first] at visible
    simpa using visible
  · intro c last
    rw [Option.mem_def, List.getLast?_eq_some_iff] at last
    obtain ⟨before, split⟩ := last
    have nonempty : trimChars text ≠ [] := by simp [split]
    have visible := List.rdropWhile_last_not isBlank (text.dropWhile isBlank) nonempty
    simp only [← back, split, List.getLast_append_singleton] at visible
    simpa using visible

/-- **A text with visible ends is kept between blanks.** -/
theorem trimChars_padded {before text after : List Char} (nonempty : text ≠ [])
    (visible : HasVisibleEnds text) (blank : ∀ c ∈ before, isBlank c = true)
    (blank' : ∀ c ∈ after, isBlank c = true) : trimChars (before ++ text ++ after) = text := by
  obtain ⟨first, rest, split⟩ := List.exists_cons_of_ne_nil nonempty
  obtain ⟨front, last, split'⟩ := (List.eq_nil_or_concat text).resolve_left nonempty
  rw [List.concat_eq_append] at split'
  have visible' : isBlank first = false := visible.first first (by simp [split])
  have visible'' : isBlank last = false := visible.last last (by simp [split'])
  calc trimChars (before ++ text ++ after)
      = ((before ++ (text ++ after)).dropWhile isBlank).rdropWhile isBlank := by
        rw [List.append_assoc]
        rfl
    _ = (text ++ after).rdropWhile isBlank := by
        rw [List.dropWhile_append_of_pos blank, split, List.cons_append,
          List.dropWhile_cons_of_neg (by simp [visible'])]
    _ = text := by
        rw [List.rdropWhile, List.reverse_append,
          List.dropWhile_append_of_pos (by simpa using blank'), split', List.reverse_concat,
          List.dropWhile_cons_of_neg (by simp [visible'']), ← List.reverse_concat,
          List.reverse_reverse]

end StrategyDesk
