import StrategyDesk.Json.Printer
import StrategyDesk.Json.Reader

/-!
# Quoted texts

Reading takes back every quoted text: each character is written as one or more characters without a
closing quote among them, and is read from them alone, whatever stands behind.

## Main Definitions

* `Json.Quoted` — the three ways in which a character is written between quotes

## Main Statements

* `Json.readQuoted?_quote` — a quoted text is read back, and what follows it is left
-/

namespace StrategyDesk.Json

/-! ## How a character is written -/

/-- A hexadecimal digit stands for itself between quotes. -/
theorem hexDigit_plain (n : Nat) :
    hexDigit n ≠ '"' ∧ hexDigit n ≠ '\\' ∧ ¬(hexDigit n).toNat < 0x20 := by
  have each : ∀ d < 16, Nat.digitChar d ≠ '"' ∧ Nat.digitChar d ≠ '\\' ∧
      ¬(Nat.digitChar d).toNat < 0x20 := by decide
  exact each (n % 16) (Nat.mod_lt n (by decide))

/-- Two hexadecimal digits are the number of a control character. -/
theorem hexUnit?_control {n : Nat} (control : n < 0x20) :
    hexUnit? '0' '0' (hexDigit (n / 16)) (hexDigit n) = some n := by
  have each : ∀ n < 0x20, hexUnit? '0' '0' (hexDigit (n / 16)) (hexDigit n) = some n := by decide
  exact each n control

/-- How a character is written between quotes: as it is, with a letter or mark after a backslash
that is read as the character, or by its number. -/
inductive Quoted : Char → List Char → Prop
  | plain {c : Char} (quote : c ≠ '"') (slash : c ≠ '\\') (visible : ¬c.toNat < 0x20) : Quoted c [c]
  | escaped {c mark : Char} (read : ∀ text, pieces? ('\\' :: mark :: text) =
      (pieces? text).map (.char c :: ·)) : Quoted c ['\\', mark]
  | numbered {c : Char} (control : c.toNat < 0x20) :
      Quoted c ['\\', 'u', '0', '0', hexDigit (c.toNat / 16), hexDigit c.toNat]

theorem quoted_quoteChar (c : Char) : Quoted c (quoteChar c) := by
  have ofNumber {n : Nat} (same : c.toNat = n) : c = Char.ofNat n := by
    rw [← same, Char.ofNat_toNat]
  have escaped {c mark : Char} (read : ∀ text, pieces? ('\\' :: mark :: text) =
      (pieces? text).bind fun pieces => some (.char c :: pieces)) : Quoted c ['\\', mark] :=
    .escaped fun text => (read text).trans Option.map_eq_bind.symm
  unfold quoteChar
  by_cases quote : c = '"'
  · rw [if_pos quote, quote]
    exact escaped fun _ => rfl
  rw [if_neg quote]
  by_cases slash : c = '\\'
  · rw [if_pos slash, slash]
    exact escaped fun _ => rfl
  rw [if_neg slash]
  by_cases line : c = '\n'
  · rw [if_pos line, line]
    exact escaped fun _ => rfl
  rw [if_neg line]
  by_cases carriage : c = '\r'
  · rw [if_pos carriage, carriage]
    exact escaped fun _ => rfl
  rw [if_neg carriage]
  by_cases tab : c = '\t'
  · rw [if_pos tab, tab]
    exact escaped fun _ => rfl
  rw [if_neg tab]
  by_cases back : c.toNat = 0x08
  · rw [if_pos back, ofNumber back]
    exact escaped fun _ => rfl
  rw [if_neg back]
  by_cases feed : c.toNat = 0x0C
  · rw [if_pos feed, ofNumber feed]
    exact escaped fun _ => rfl
  rw [if_neg feed]
  by_cases control : c.toNat < 0x20
  · rw [if_pos control]
    exact .numbered control
  · rw [if_neg control]
    exact .plain quote slash control

/-! ## The body between the quotes -/

/-- A character that stands for itself between quotes. -/
theorem quotedBody_cons {c : Char} (quote : c ≠ '"') (slash : c ≠ '\\') (visible : ¬c.toNat < 0x20)
    (text : List Char) :
    quotedBody (c :: text) = (quotedBody text).map fun (body, after) => (c :: body, after) := by
  rw [quotedBody.eq_5 _ _ quote (fun h => absurd h slash) (fun _ _ h => absurd h slash),
    if_neg visible]

theorem quotedBody_hexDigit (n : Nat) (text : List Char) :
    quotedBody (hexDigit n :: text) =
      (quotedBody text).map fun (body, after) => (hexDigit n :: body, after) := by
  obtain ⟨quote, slash, visible⟩ := hexDigit_plain n
  exact quotedBody_cons quote slash visible text

/-- A written character belongs to the body. -/
theorem Quoted.quotedBody {c : Char} {written : List Char} (quoted : Quoted c written)
    (text : List Char) :
    quotedBody (written ++ text) =
      (quotedBody text).map fun (body, after) => (written ++ body, after) := by
  cases quoted with
  | plain quote slash visible => exact quotedBody_cons quote slash visible text
  | escaped _ => rfl
  | numbered control =>
      have zero (text : List Char) :=
        quotedBody_cons (c := '0') (by decide) (by decide) (by decide) text
      have mark (text : List Char) : Json.quotedBody ('\\' :: 'u' :: text) =
        (Json.quotedBody text).map fun (body, after) => ('\\' :: 'u' :: body, after) := rfl
      simp only [List.cons_append, List.nil_append, mark, zero, quotedBody_hexDigit,
        Option.map_map, Function.comp_def]

/-- The body of a quoted text ends before the closing quote. -/
theorem quotedBody_flatMap (text rest : List Char) :
    quotedBody (text.flatMap quoteChar ++ '"' :: rest) = some (text.flatMap quoteChar, rest) := by
  induction text with
  | nil => rfl
  | cons c text ih =>
      rw [List.flatMap_cons, List.append_assoc, (quoted_quoteChar c).quotedBody, ih]
      rfl

/-! ## The characters of a body -/

theorem pieces?_cons {c : Char} (slash : c ≠ '\\') (text : List Char) :
    pieces? (c :: text) = (pieces? text).map (.char c :: ·) := by
  rw [pieces?.eq_def]
  split
  · next empty => cases empty
  · next starts => exact absurd (List.cons.inj starts).1 slash
  · next starts => exact absurd (List.cons.inj starts).1 slash
  · next starts => exact absurd (List.cons.inj starts).1 slash
  · next starts =>
    obtain ⟨rfl, rfl⟩ := List.cons.inj starts
    cases pieces? text <;> rfl

/-- The number of a control character joins to it. -/
theorem joinUnits?_control {c : Char} (control : c.toNat < 0x20) (pieces : List Piece) :
    joinUnits? (.unit c.toNat :: pieces) = (joinUnits? pieces).map (c :: ·) := by
  have noHigh : ¬(0xD800 ≤ c.toNat ∧ c.toNat < 0xDC00) := by omega
  have noLow : ¬(0xDC00 ≤ c.toNat ∧ c.toNat < 0xE000) := by omega
  rw [joinUnits?.eq_def]
  simp only [if_neg noHigh, if_neg noLow, Char.ofNat_toNat]
  cases joinUnits? pieces <;> rfl

/-- The pieces of the body join to the text. -/
theorem joinUnits?_pieces? (text : List Char) :
    (pieces? (text.flatMap quoteChar)).map joinUnits? = some (some text) := by
  induction text with
  | nil => rfl
  | cons c text ih =>
      obtain ⟨pieces, read, joined⟩ := Option.map_eq_some_iff.mp ih
      rw [List.flatMap_cons]
      have written := quoted_quoteChar c
      generalize quoteChar c = first at written ⊢
      cases written with
      | plain _ slash _ =>
          rw [List.singleton_append, pieces?_cons slash, read]
          simp [joinUnits?, joined]
      | escaped known =>
          rw [List.cons_append, List.singleton_append, known, read]
          simp [joinUnits?, joined]
      | numbered control =>
          have unit := joinUnits?_control control pieces
          rw [joined] at unit
          simp [pieces?, hexUnit?_control control, read, unit]

/-- **A quoted text is read back**, and what follows it is left. -/
theorem readQuoted?_flatMap (text : String) (rest : List Char) :
    readQuoted? (text.toList.flatMap quoteChar ++ '"' :: rest) = some (some text, rest) := by
  obtain ⟨pieces, read, joined⟩ := Option.map_eq_some_iff.mp (joinUnits?_pieces? text.toList)
  unfold readQuoted?
  rw [quotedBody_flatMap]
  simp [read, joined]

end StrategyDesk.Json
