import Mathlib.Data.List.Basic
import StrategyDesk.Text.Blank
import StrategyDesk.Text.Uppercase

/-!
# Uppercase texts

No uppercase of a character has another uppercase in turn, so that a text in uppercase is its own
uppercase. An uppercase is a blank or a comma only where the character itself is one.

## Main Definitions

* `casedCodes`, `uppercaseCodes` — the characters that have another uppercase, and these

## Main Statements

* `upper_upper` — a text in uppercase is kept
* `upperChar_ne_nil`, `upper_eq_empty` — nothing is lost
* `isBlank_of_mem_upperChar`, `eq_comma_of_mem_upperChar` — blanks and commas come from their like

## Design Notes

The characters that have another uppercase are looked up in a set of bits, since the tables would be
searched anew for each uppercase otherwise.
-/

namespace StrategyDesk

theorem toNat_ofNat_of_isValidChar {n : Nat} (valid : n.isValidChar) :
    (Char.ofNat n).toNat = n := by
  rw [Char.ofNat, dif_pos valid]
  rfl

/-! ## The tables -/

/-- The characters of a run. -/
def CaseRun.members (run : CaseRun) : List Nat :=
  List.range' run.first ((run.last - run.first) / run.step + 1) run.step

/-- The characters that have another uppercase. -/
def casedCodes : List Nat := upperRuns.flatMap CaseRun.members ++ upperExpansions.map (·.1)

/-- The characters in the uppercases of those that have another one. -/
def uppercaseCodes : List Nat :=
  upperRuns.flatMap (fun run => run.members.map fun n : Nat => (n + run.offset).toNat)
    ++ upperExpansions.flatMap (·.2)

/-- The set of some numbers, as the bits that are set. -/
def bitSet (codes : List Nat) : Nat := codes.foldl (fun set n => set ||| 1 <<< n) 0

theorem testBit_bitSet {codes : List Nat} {n : Nat} :
    (bitSet codes).testBit n = true ↔ n ∈ codes := by
  have grown : ∀ set, (codes.foldl (fun set n => set ||| 1 <<< n) set).testBit n = true ↔
      set.testBit n = true ∨ n ∈ codes := by
    induction codes with
    | nil => simp
    | cons code rest ih =>
        intro set
        have bit : (1 <<< code).testBit n = true ↔ n = code := by
          rw [Nat.one_shiftLeft, Nat.testBit_two_pow, decide_eq_true_eq, eq_comm]
        rw [List.foldl_cons, ih, Nat.testBit_or, Bool.or_eq_true, bit, List.mem_cons, or_assoc]
  exact (grown 0).trans (by simp)

theorem CaseRun.mem_members {run : CaseRun} {n : Nat} (holds : run.holds n = true) :
    n ∈ run.members := by
  simp only [CaseRun.holds, Bool.and_eq_true, decide_eq_true_eq, beq_iff_eq] at holds
  obtain ⟨⟨low, high⟩, onStep⟩ := holds
  have split := Nat.div_add_mod (n - run.first) run.step
  have place : (n - run.first) / run.step < (run.last - run.first) / run.step + 1 :=
    Nat.lt_succ_of_le (Nat.div_le_div_right (by omega))
  exact List.mem_range'.mpr ⟨_, place, by omega⟩

theorem mem_upperExpansions {n : Nat} {expansion : List Nat}
    (found : upperExpansions.lookup n = some expansion) : (n, expansion) ∈ upperExpansions := by
  obtain ⟨before, after, split, -⟩ := List.lookup_eq_some_iff.mp found
  rw [split]
  exact List.mem_append_right _ List.mem_cons_self

/-- The characters in uppercases are valid ones, none of them has another uppercase, and none is a
blank or a comma. -/
theorem uppercaseCodes_apart : ∀ n ∈ uppercaseCodes,
    n ∉ casedCodes ∧ n.isValidChar ∧ isBlank (Char.ofNat n) = false ∧ n ≠ ','.toNat := by
  have checked : (uppercaseCodes.all fun n => !(bitSet casedCodes).testBit n && n.isValidChar &&
      !isBlank (Char.ofNat n) && n != ','.toNat) = true := by decide +kernel
  intro n member
  have apart := List.all_eq_true.mp checked n member
  simp only [Bool.and_eq_true, Bool.not_eq_true', decide_eq_true_eq, bne_iff_ne] at apart
  obtain ⟨⟨⟨uncased, valid⟩, visible⟩, other⟩ := apart
  refine ⟨fun cased => ?_, valid, visible, other⟩
  rw [testBit_bitSet.mpr cased] at uncased
  cases uncased

/-! ## One character -/

/-- A character is its own uppercase unless it is listed with another one. -/
theorem upperChar_of_notMem {c : Char} (uncased : c.toNat ∉ casedCodes) : upperChar c = [c] := by
  rw [casedCodes, List.mem_append, not_or] at uncased
  have noRun : upperRuns.find? (·.holds c.toNat) = none := by
    refine List.find?_eq_none.mpr fun run member holds => uncased.1 ?_
    exact List.mem_flatMap.mpr ⟨run, member, CaseRun.mem_members holds⟩
  have noExpansion : upperExpansions.lookup c.toNat = none := by
    refine List.lookup_eq_none_iff.mpr fun entry member => bne_iff_ne.mpr fun same => ?_
    exact uncased.2 (same ▸ List.mem_map_of_mem member)
  simp only [upperChar, noRun, noExpansion]

/-- An uppercase is the character itself, or made of characters in the tables. -/
theorem upperChar_cases (c : Char) :
    upperChar c = [c] ∨ ∀ d ∈ upperChar c, ∃ n ∈ uppercaseCodes, d = Char.ofNat n := by
  unfold upperChar
  extract_lets n
  split
  · next run found =>
    have member := List.mem_of_find?_eq_some found
    have holds := List.find?_some found
    refine Or.inr fun d only => ⟨_, ?_, List.mem_singleton.mp only⟩
    refine List.mem_append_left _ (List.mem_flatMap.mpr ⟨run, member, ?_⟩)
    exact List.mem_map.mpr ⟨n, CaseRun.mem_members holds, rfl⟩
  · split
    · next several found =>
      refine Or.inr fun d inside => ?_
      obtain ⟨code, listed, rfl⟩ := List.mem_map.mp inside
      exact ⟨code, List.mem_append_right _
        (List.mem_flatMap.mpr ⟨_, mem_upperExpansions found, listed⟩), rfl⟩
    · exact Or.inl rfl

/-- Every character has an uppercase. -/
theorem upperChar_ne_nil (c : Char) : upperChar c ≠ [] := by
  have several : ∀ entry ∈ upperExpansions, entry.2 ≠ [] := by decide
  unfold upperChar
  extract_lets n
  split
  · exact nofun
  · split
    · next expansion found =>
      exact fun none => several _ (mem_upperExpansions found) (List.map_eq_nil_iff.mp none)
    · exact nofun

section Mapped

variable {c d : Char}

/-- A character of an uppercase is its own uppercase. -/
theorem upperChar_of_mem_upperChar (member : d ∈ upperChar c) : upperChar d = [d] := by
  rcases upperChar_cases c with same | listed
  · rw [same, List.mem_singleton] at member
    rw [member, same]
  · obtain ⟨n, listed, rfl⟩ := listed d member
    obtain ⟨uncased, valid, -⟩ := uppercaseCodes_apart n listed
    refine upperChar_of_notMem ?_
    rwa [toNat_ofNat_of_isValidChar valid]

/-- An uppercase holds a blank only if it is that of a blank. -/
theorem isBlank_of_mem_upperChar (member : d ∈ upperChar c) (blank : isBlank d = true) :
    isBlank c = true := by
  rcases upperChar_cases c with same | listed
  · rw [same, List.mem_singleton] at member
    exact member ▸ blank
  · obtain ⟨n, listed, rfl⟩ := listed d member
    rw [(uppercaseCodes_apart n listed).2.2.1] at blank
    cases blank

/-- An uppercase holds a comma only if it is that of a comma. -/
theorem eq_comma_of_mem_upperChar (member : ',' ∈ upperChar c) : c = ',' := by
  rcases upperChar_cases c with same | listed
  · rw [same, List.mem_singleton] at member
    exact member.symm
  · obtain ⟨n, listed, comma⟩ := listed ',' member
    obtain ⟨-, valid, -, other⟩ := uppercaseCodes_apart n listed
    rw [comma, toNat_ofNat_of_isValidChar valid] at other
    exact absurd rfl other

end Mapped

/-! ## Texts -/

theorem toList_upper (text : String) : (upper text).toList = text.toList.flatMap upperChar := by
  rw [upper, String.toList_ofList]

theorem upper_eq_empty {text : String} : upper text = "" ↔ text = "" := by
  unfold upper
  rw [← String.toList_inj, String.toList_ofList, ← String.toList_inj]
  cases chars : text.toList with
  | nil => exact iff_of_true rfl rfl
  | cons c rest =>
      refine iff_of_false (fun none => ?_) nofun
      exact upperChar_ne_nil c (List.flatMap_eq_nil_iff.mp none c List.mem_cons_self)

/-- Characters that are their own uppercase are kept. -/
theorem flatMap_upperChar_of_forall {text : List Char} (kept : ∀ c ∈ text, upperChar c = [c]) :
    text.flatMap upperChar = text := by
  induction text with
  | nil => rfl
  | cons c rest ih =>
      rw [List.forall_mem_cons] at kept
      rw [List.flatMap_cons, kept.1, ih kept.2, List.singleton_append]

/-- **A text in uppercase is its own uppercase.** -/
theorem upper_upper (text : String) : upper (upper text) = upper text := by
  rw [← String.toList_inj, toList_upper (upper text), toList_upper]
  refine flatMap_upperChar_of_forall fun d member => ?_
  obtain ⟨c, -, inside⟩ := List.mem_flatMap.mp member
  exact upperChar_of_mem_upperChar inside

end StrategyDesk
