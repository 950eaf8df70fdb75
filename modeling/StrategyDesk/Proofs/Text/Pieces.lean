import Mathlib.Data.List.Basic
import StrategyDesk.Text.Layout

/-!
# Pieces of texts

Splitting at a separator is that of lists, so a text that is two texts with the separator between
them has the pieces of both.

## Main Statements

* `splitChars_eq_splitOn` — the pieces of a text are those of its list of characters
* `splitText_append` — the pieces of two texts with the separator between them
* `exists_mem_splitChars` — the pieces hold all characters but the separators
-/

namespace StrategyDesk

variable {separator : Char}

/-- The pieces of a text are those of its list of characters. -/
theorem splitChars_eq_splitOn (separator : Char) (text : List Char) :
    splitChars separator text = text.splitOn separator := by
  induction text with
  | nil => rfl
  | cons c rest ih =>
      rw [List.splitOn_cons_eq_if_modifyHead, splitChars, ih]
      cases split : rest.splitOn separator with
      | nil => exact absurd split (List.splitOn_ne_nil separator rest)
      | cons piece pieces => simp only [beq_iff_eq, List.modifyHead_cons]

theorem splitChars_ne_nil (separator : Char) (text : List Char) :
    splitChars separator text ≠ [] := by
  rw [splitChars_eq_splitOn]
  exact List.splitOn_ne_nil separator text

/-- **The pieces of two texts with the separator between them** are those of the one and the
other. -/
theorem splitText_append (a b : String) :
    splitText separator (a ++ String.singleton separator ++ b) =
      splitText separator a ++ splitText separator b := by
  have chars : (a ++ String.singleton separator ++ b).toList =
      a.toList ++ separator :: b.toList := by simp
  simp only [splitText, chars, splitChars_eq_splitOn, List.splitOn_append_cons_self,
    List.map_append]

/-- A text without separators is its only piece. -/
theorem splitText_of_notMem {text : String} (free : separator ∉ text.toList) :
    splitText separator text = [text] := by
  rw [splitText, splitChars_eq_splitOn, List.splitOn_eq_singleton free, List.map_singleton,
    String.ofList_toList]

/-- The pieces of a text hold its characters but for the separators. -/
theorem exists_mem_splitChars {c : Char} {text : List Char} :
    (∃ piece ∈ splitChars separator text, c ∈ piece) ↔ c ∈ text ∧ c ≠ separator := by
  induction text with
  | nil => simp [splitChars]
  | cons first rest ih =>
      unfold splitChars
      cases split : splitChars separator rest with
      | nil => exact absurd split (splitChars_ne_nil separator rest)
      | cons piece pieces =>
          rw [split, List.exists_mem_cons_iff] at ih
          dsimp only
          -- A separator begins a piece without characters; any other one is put into the first.
          by_cases here : first = separator
          · rw [if_pos here, List.exists_mem_cons_iff, List.exists_mem_cons_iff, ih, List.mem_cons]
            constructor
            · rintro (none | ⟨there, apart⟩)
              · cases none
              · exact ⟨Or.inr there, apart⟩
            · rintro ⟨same | there, apart⟩
              · exact absurd (same.trans here) apart
              · exact Or.inr ⟨there, apart⟩
          · rw [if_neg here, List.exists_mem_cons_iff, List.mem_cons, or_assoc, ih, List.mem_cons]
            constructor
            · rintro (same | ⟨there, apart⟩)
              · exact ⟨Or.inl same, same ▸ here⟩
              · exact ⟨Or.inr there, apart⟩
            · rintro ⟨same | there, apart⟩
              · exact Or.inl same
              · exact Or.inr ⟨there, apart⟩

end StrategyDesk
