import StrategyDesk.Json.Reader

/-!
# The documents of texts

Whatever text a document was read from, its numbers are in the range of documents.  Parts that stand
for no value may occur in it, as long as nobody reads them.

## Main Definitions

* `Json.Readable` — every number of the document is one that a text can give

## Main Statements

* `Json.readable_of_parse?` — a document that was read from a text is readable
-/

namespace StrategyDesk.Json

mutual

/-- Every number of the document is one that a text can give. -/
def Readable : Json → Prop
  | .unreadable | .null | .bool _ | .string _ => True
  | .number n => n.IsCanonical
  | .array items => ItemsReadable items
  | .object fields => FieldsReadable fields

/-- Every item is readable. -/
def ItemsReadable : List Json → Prop
  | [] => True
  | item :: rest => item.Readable ∧ ItemsReadable rest

/-- The value of every field is readable. -/
def FieldsReadable : List (String × Json) → Prop
  | [] => True
  | (_, value) :: rest => value.Readable ∧ FieldsReadable rest

end

theorem itemsReadable_iff {items : List Json} :
    ItemsReadable items ↔ ∀ item ∈ items, item.Readable := by
  induction items with
  | nil => simp [ItemsReadable]
  | cons item rest ih => simp [ItemsReadable, ih]

theorem fieldsReadable_iff {fields : List (String × Json)} :
    FieldsReadable fields ↔ ∀ e ∈ fields, e.2.Readable := by
  induction fields with
  | nil => simp [FieldsReadable]
  | cons field rest ih => simp [FieldsReadable, ih]

/-- A number beyond the range is left out. -/
theorem readable_ofNumber (n : JsonNumber) : (ofNumber n).Readable := by
  unfold ofNumber
  split
  · next canonical => exact canonical
  · trivial

/-- What the reader gives with so much fuel is readable. -/
structure GivesReadable (fuel : Nat) : Prop where
  value {depth text j rest} : readValue? fuel depth text = some (j, rest) → j.Readable
  items {depth text items rest} :
    readItems? fuel depth text = some (items, rest) → ItemsReadable items
  fields {depth text fields rest} :
    readFields? fuel depth text = some (fields, rest) → FieldsReadable fields

theorem GivesReadable.value_succ {fuel : Nat} (inner : GivesReadable fuel) {depth : Nat}
    {text rest : List Char} {j : Json} (read : readValue? (fuel + 1) depth text = some (j, rest)) :
    j.Readable := by
  unfold readValue? at read
  split at read
  case h_1 | h_2 | h_3 =>
    cases read
    trivial
  case h_4 =>
    obtain ⟨⟨text, _⟩, -, same⟩ := Option.map_eq_some_iff.mp read
    cases same
    cases text <;> trivial
  case h_5 | h_8 =>
    obtain ⟨⟨n, _⟩, -, same⟩ := Option.map_eq_some_iff.mp read
    cases same
    exact readable_ofNumber n
  case h_6 =>
    split at read
    · cases read
    split at read
    · cases read
      trivial
    · obtain ⟨⟨items, _⟩, inside, same⟩ := Option.map_eq_some_iff.mp read
      cases same
      exact inner.items inside
  case h_7 =>
    split at read
    · cases read
    split at read
    · cases read
      trivial
    · obtain ⟨⟨fields, _⟩, inside, same⟩ := Option.map_eq_some_iff.mp read
      cases same
      exact inner.fields inside

theorem GivesReadable.items_succ {fuel : Nat} (inner : GivesReadable fuel) {depth : Nat}
    {text rest : List Char} {items : List Json}
    (read : readItems? (fuel + 1) depth text = some (items, rest)) : ItemsReadable items := by
  unfold readItems? at read
  obtain ⟨⟨item, after⟩, first, read⟩ := Option.bind_eq_some_iff.mp read
  have readable := inner.value first
  dsimp only at read
  split at read
  · cases read
    exact ⟨readable, trivial⟩
  · obtain ⟨⟨others, _⟩, later, same⟩ := Option.bind_eq_some_iff.mp read
    cases same
    exact ⟨readable, inner.items later⟩
  · cases read

theorem GivesReadable.fields_succ {fuel : Nat} (inner : GivesReadable fuel) {depth : Nat}
    {text rest : List Char} {fields : List (String × Json)}
    (read : readFields? (fuel + 1) depth text = some (fields, rest)) : FieldsReadable fields := by
  unfold readFields? at read
  split at read
  · obtain ⟨⟨quoted, after⟩, -, read⟩ := Option.bind_eq_some_iff.mp read
    obtain ⟨key, -, read⟩ := Option.bind_eq_some_iff.mp read
    dsimp only at read
    split at read
    · obtain ⟨⟨value, tail⟩, first, read⟩ := Option.bind_eq_some_iff.mp read
      have readable := inner.value first
      dsimp only at read
      split at read
      · cases read
        exact ⟨readable, trivial⟩
      · obtain ⟨⟨others, _⟩, later, same⟩ := Option.bind_eq_some_iff.mp read
        cases same
        exact ⟨readable, inner.fields later⟩
      · cases read
    · cases read
  · cases read

theorem givesReadable (fuel : Nat) : GivesReadable fuel := by
  induction fuel with
  | zero => exact ⟨nofun, nofun, nofun⟩
  | succ fuel inner => exact ⟨inner.value_succ, inner.items_succ, inner.fields_succ⟩

/-- **A document that was read from a text is readable.** -/
theorem readable_of_parse? {text : String} {j : Json} (read : parse? text = some j) :
    j.Readable := by
  unfold parse? at read
  obtain ⟨⟨value, rest⟩, inside, read⟩ := Option.bind_eq_some_iff.mp read
  dsimp only at read
  split at read
  · cases read
    exact (givesReadable _).value inside
  · cases read

end StrategyDesk.Json
