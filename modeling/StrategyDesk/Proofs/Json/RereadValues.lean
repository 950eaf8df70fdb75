import StrategyDesk.Proofs.Json.Floats
import StrategyDesk.Proofs.Json.Values

/-!
# Values that are reread

A canonical document is reread as a canonical one: its keys stay as they are, and its numbers stay
numbers.  So a value, and a map of values, can be read back as one of its kind, however its floats
were rounded on the way.

## Main Definitions

* `Value.reread`, `ParamMap.reread` — what a value and a map of values are read back as

## Main Statements

* `Json.isCanonical_reread` — a canonical document is reread as a canonical one
* `ParamMap.toJson_reread` — the document of a map is reread as that of the reread map
-/

namespace StrategyDesk

namespace Json

theorem rereadFields_eq_map (fields : List (String × Json)) :
    rereadFields fields = fields.map fun e => (e.1, e.2.reread) := by
  induction fields with
  | nil => rfl
  | cons field rest ih => rw [rereadFields, ih, List.map_cons]

/-- Rereading keeps the keys of fields. -/
theorem keysAscend_rereadFields {fields : List (String × Json)} (ascend : KeysAscend fields) :
    KeysAscend (rereadFields fields) := by
  rw [rereadFields_eq_map]
  exact List.pairwise_map.mpr ascend

/-- A number that a text can give is reread as one. -/
theorem isCanonical_reread_number {n : JsonNumber} (canonical : n.IsCanonical) :
    (Json.number n).reread.IsCanonical := by
  cases n with
  | integer value =>
      rw [reread_integer canonical]
      exact canonical
  | float x =>
      rw [Binary64.reread_number canonical]
      exact Binary64.isFinite_reread canonical

mutual

/-- **A canonical document is reread as a canonical one.** -/
theorem isCanonical_reread {j : Json} (canonical : j.IsCanonical) : j.reread.IsCanonical := by
  match j with
  | .unreadable => cases canonical
  | .null | .bool _ | .string _ => trivial
  | .number n => exact isCanonical_reread_number canonical
  | .array items => exact itemsCanonical_rereadItems canonical
  | .object fields =>
      exact ⟨keysAscend_rereadFields canonical.1, fieldsCanonical_rereadFields canonical.2⟩

theorem itemsCanonical_rereadItems {items : List Json} (canonical : ItemsCanonical items) :
    ItemsCanonical (rereadItems items) := by
  match items with
  | [] => trivial
  | item :: rest =>
      exact ⟨isCanonical_reread canonical.1, itemsCanonical_rereadItems canonical.2⟩

theorem fieldsCanonical_rereadFields {fields : List (String × Json)}
    (canonical : FieldsCanonical fields) : FieldsCanonical (rereadFields fields) := by
  match fields with
  | [] => trivial
  | (key, value) :: rest =>
      exact ⟨isCanonical_reread canonical.1, fieldsCanonical_rereadFields canonical.2⟩

end

end Json

namespace Value

/-- The value that a value is read back as. -/
def reread (value : Value) : Value := ⟨value.json.reread, Json.isCanonical_reread value.canonical⟩

/-- A value is its document. -/
theorem eq_of_json {a b : Value} (same : a.json = b.json) : a = b := by
  cases a
  cases b
  cases same
  rfl

end Value

namespace ParamMap

/-- The map that a map of values is read back as. -/
def reread (map : ParamMap) : ParamMap := KeyMap.map Value.reread map

/-- **The document of a map is reread as that of the reread map.** -/
theorem toJson_reread (map : ParamMap) : map.reread.toJson = map.toJson.reread := by
  show Json.object (((map.toList.map fun e => (e.1, e.2.reread)).map fun e => (e.1, e.2.json))) =
    .object (Json.rereadFields (map.toList.map fun e => (e.1, e.2.json)))
  rw [Json.rereadFields_eq_map, List.map_map, List.map_map]
  rfl

theorem get?_reread (map : ParamMap) (key : String) :
    map.reread.get? key = (map.get? key).map Value.reread :=
  KeyMap.get?_map _ _ _

end ParamMap

namespace Value

@[simp] theorem reread_ofMap (map : ParamMap) : (ofMap map).reread = ofMap map.reread :=
  eq_of_json map.toJson_reread.symm

end Value

end StrategyDesk
