import StrategyDesk.Json.Wire
import StrategyDesk.Proofs.Json.RereadValues

/-!
# Wire forms that are read back

A value of a wire type is read back from its text as the value that its reread document stands for.
This is put together from the parts of a value: lists, optional values and the fields of records.
Where the floats in a document are read back from their texts, the document is reread as it was.

## Main Definitions

* `Binary64.ReadsBack` — a number that is read back from its text in documents
* `Json.floats`, `Json.Stable` — the floats in a document, and documents whose floats are read back
* `Wire.Rereads` — a value that is read back as another one
* `Wire.RoundTrips` — a value that is read from its document, which is stable

## Main Statements

* `Json.reread_eq_self` — a stable document is reread as it was
* `Json.slots?_record` — the fields of a record are found in its document
* `Json.read_record` — a record is read from its document
* `Wire.Rereads.parse?_pretty` — what is read from the text of a value
-/

namespace StrategyDesk

/-- The number is read back from its text in documents. -/
def Binary64.ReadsBack (x : Binary64) : Prop :=
  Json.parse? (JsonNumber.float x).text = some (.number (.float x))

instance (x : Binary64) : Decidable x.ReadsBack := inferInstanceAs (Decidable (_ = _))

/-- What is no number in documents is not read back. -/
theorem Binary64.ReadsBack.isFinite {x : Binary64} (back : x.ReadsBack) : x.isFinite = true := by
  cases x with
  | finite _ _ _ _ => rfl
  | infinite negative => cases negative <;> exact absurd back (by decide)
  | nan => exact absurd back (by decide)

namespace Json

mutual

/-- The floats in a document. -/
def floats : Json → List Binary64
  | .number (.float x) => [x]
  | .array items => itemsFloats items
  | .object fields => fieldsFloats fields
  | .number (.integer _) | .unreadable | .null | .bool _ | .string _ => []

/-- The floats in items. -/
def itemsFloats : List Json → List Binary64
  | [] => []
  | item :: rest => item.floats ++ itemsFloats rest

/-- The floats in the values of fields. -/
def fieldsFloats : List (String × Json) → List Binary64
  | [] => []
  | (_, value) :: rest => value.floats ++ fieldsFloats rest

end

/-! ## Rereading -/

mutual

/-- A canonical document is legible. -/
theorem legible_of_isCanonical {j : Json} (canonical : j.IsCanonical) : j.Legible := by
  match j with
  | .unreadable => cases canonical
  | .null | .bool _ | .string _ => trivial
  | .number n => exact canonical
  | .array items => exact itemsLegible_of_itemsCanonical canonical
  | .object fields => exact fieldsLegible_of_fieldsCanonical canonical.2

theorem itemsLegible_of_itemsCanonical {items : List Json} (canonical : ItemsCanonical items) :
    ItemsLegible items := by
  match items with
  | [] => trivial
  | item :: rest =>
      exact ⟨legible_of_isCanonical canonical.1, itemsLegible_of_itemsCanonical canonical.2⟩

theorem fieldsLegible_of_fieldsCanonical {fields : List (String × Json)}
    (canonical : FieldsCanonical fields) : FieldsLegible fields := by
  match fields with
  | [] => trivial
  | (key, value) :: rest =>
      exact ⟨legible_of_isCanonical canonical.1, fieldsLegible_of_fieldsCanonical canonical.2⟩

end

/-- Every part of the document stands for a value, and every float is read back. -/
structure Stable (j : Json) : Prop where
  legible : j.Legible
  floats : ∀ x ∈ j.floats, x.ReadsBack

mutual

/-- **A stable document is reread as it was.** -/
theorem reread_eq_self {j : Json} (stable : j.Stable) : j.reread = j := by
  match j with
  | .unreadable | .null | .bool _ | .string _ => rfl
  | .number (.integer value) => exact reread_integer stable.legible
  | .number (.float x) =>
      have read : parse? (JsonNumber.float x).text = some (.number (.float x)) :=
        stable.floats x List.mem_cons_self
      rw [reread, read]
      rfl
  | .array items => rw [reread, rereadItems_eq_self stable.legible stable.floats]
  | .object fields => rw [reread, rereadFields_eq_self stable.legible stable.floats]

theorem rereadItems_eq_self {items : List Json} (legible : ItemsLegible items)
    (floats : ∀ x ∈ itemsFloats items, x.ReadsBack) : rereadItems items = items := by
  match items with
  | [] => rfl
  | item :: rest =>
      obtain ⟨first, others⟩ := List.forall_mem_append.mp floats
      rw [rereadItems, reread_eq_self ⟨legible.1, first⟩, rereadItems_eq_self legible.2 others]

theorem rereadFields_eq_self {fields : List (String × Json)} (legible : FieldsLegible fields)
    (floats : ∀ x ∈ fieldsFloats fields, x.ReadsBack) : rereadFields fields = fields := by
  match fields with
  | [] => rfl
  | (key, value) :: rest =>
      obtain ⟨first, others⟩ := List.forall_mem_append.mp floats
      rw [rereadFields, reread_eq_self ⟨legible.1, first⟩, rereadFields_eq_self legible.2 others]

end

theorem stable_object {fields : List (String × Json)} (each : ∀ e ∈ fields, e.2.Stable) :
    (Json.object fields).Stable := by
  induction fields with
  | nil => exact ⟨True.intro, List.forall_mem_nil _⟩
  | cons field fields ih =>
      obtain ⟨first, others⟩ := List.forall_mem_cons.mp each
      obtain ⟨legible, floats⟩ := ih others
      exact ⟨⟨first.legible, legible⟩, List.forall_mem_append.mpr ⟨first.floats, floats⟩⟩

end Json

/-- A number that is read back is reread as itself. -/
theorem Binary64.ReadsBack.reread {x : Binary64} (back : x.ReadsBack) : x.reread = x := by
  have document : (Json.number (.float x)).reread = .number (.float x) :=
    Json.reread_eq_self ⟨back.isFinite, List.forall_mem_singleton.mpr back⟩
  rw [Binary64.reread_number back.isFinite] at document
  exact JsonNumber.float.inj (Json.number.inj document)

/-- A map of values is reread as itself if its floats are read back. -/
theorem ParamMap.reread_eq_self {map : ParamMap} (floats : ∀ x ∈ map.toJson.floats, x.ReadsBack) :
    map.reread = map := by
  have legible := Json.legible_of_isCanonical map.isCanonical_toJson
  have document : map.reread.toJson = map.toJson :=
    map.toJson_reread.trans (Json.reread_eq_self ⟨legible, floats⟩)
  have read := congrArg ParamMap.ofJson? document
  rw [ParamMap.ofJson?_toJson, ParamMap.ofJson?_toJson] at read
  exact Option.some.inj read

/-! ## Values -/

namespace Wire

/-- A value whose document is reread as that of another one, which is read from it. -/
structure Rereads {α : Type} [Wire α] (a b : α) : Prop where
  legible : (toJson a).Legible
  reread : (toJson a).reread = toJson b
  read : Wire.ofJson? (toJson b) = some b

/-- A value that is read from its document, which is stable. -/
structure RoundTrips {α : Type} [Wire α] (a : α) : Prop where
  read : Wire.ofJson? (toJson a) = some a
  stable : (toJson a).Stable

variable {α : Type} [Wire α]

theorem RoundTrips.rereads {a : α} (back : RoundTrips a) : Rereads a a :=
  ⟨back.stable.legible, Json.reread_eq_self back.stable, back.read⟩

/-- **The text of a value is read as what the value is reread as**, unless its document is nested
too deeply. -/
theorem Rereads.parse?_pretty {a b : α} (back : Rereads a b)
    (shallow : (toJson a).depth ≤ Json.depthLimit) : Wire.parse? (toJson a).pretty = some b := by
  unfold Wire.parse?
  rw [Json.parse?_pretty back.legible shallow, back.reread]
  exact back.read

theorem roundTrips_string (text : String) : RoundTrips text :=
  ⟨rfl, True.intro, List.forall_mem_nil _⟩

theorem rereads_binary64 {x : Binary64} (finite : x.isFinite = true) : Rereads x x.reread := by
  have finite' := Binary64.isFinite_reread finite
  have document : toJson x = .number (.float x) := if_pos finite
  have document' : toJson x.reread = .number (.float x.reread) := if_pos finite'
  refine ⟨?_, ?_, ?_⟩
  · rw [document]
    exact finite
  · rw [document, document', Binary64.reread_number finite]
  · rw [document']
    exact if_pos finite'

theorem rereads_paramMap (map : ParamMap) : Rereads map map.reread where
  legible := Json.legible_of_isCanonical map.isCanonical_toJson
  reread := map.toJson_reread.symm
  read := map.reread.ofJson?_toJson

theorem roundTrips_none : RoundTrips (none : Option α) := ⟨rfl, True.intro, List.forall_mem_nil _⟩

/-- An optional value is read back if the value is, and is not written as one that is absent. -/
theorem RoundTrips.some {a : α} (back : RoundTrips a) (present : toJson a ≠ .null) :
    RoundTrips (some a) := by
  refine ⟨?_, back.stable⟩
  have read : Wire.ofJson? (toJson (Option.some a)) =
      (Wire.ofJson? (toJson a) : Option α).map Option.some := by
    cases document : toJson a with
    | null => exact absurd document present
    | unreadable | bool _ | number _ | string _ | array _ | object _ => rfl
  rw [read, back.read]
  rfl

/-- Items are read back one by one. -/
theorem rereads_list {change : α → α} {items : List α}
    (back : ∀ a ∈ items, Rereads a (change a)) : Rereads items (items.map change) := by
  induction items with
  | nil => exact ⟨True.intro, rfl, rfl⟩
  | cons a items ih =>
      obtain ⟨first, others⟩ := List.forall_mem_cons.mp back
      obtain ⟨legible, reread, read⟩ := ih others
      refine ⟨⟨first.legible, legible⟩, ?_, ?_⟩
      · have rereadItems : Json.rereadItems (items.map toJson) =
            (items.map change).map toJson := Json.array.inj reread
        show Json.array (Json.rereadItems ((a :: items).map toJson)) = _
        rw [List.map_cons, Json.rereadItems, first.reread, rereadItems]
        rfl
      · have readItems : ((items.map change).map toJson).mapM Wire.ofJson? =
            Option.some (items.map change) := read
        show (((a :: items).map change).map toJson).mapM Wire.ofJson? = _
        rw [List.map_cons, List.map_cons, List.mapM_cons, first.read, readItems]
        rfl

end Wire

/-! ## Records -/

/-- What a document says about a field that was written or left out. -/
def Slot.ofField : Option Json → Slot
  | some value => .given value
  | none => .missing

@[simp] theorem Slot.ofField_some (value : Json) : ofField (some value) = given value := rfl

/-- An optional field is read from what it was written as, or from its absence. -/
theorem Wire.RoundTrips.optional_ofField {α : Type} [Wire α] {value : Option α}
    (back : RoundTrips value) : (Slot.ofField (value.map toJson)).optional = Option.some value := by
  cases value with
  | none => rfl
  | some a => exact back.read

/-- An optional field that is always written is read from what it was written as. -/
theorem Wire.RoundTrips.optional_given {α : Type} [Wire α] {value : Option α}
    (back : RoundTrips value) : (Slot.given (toJson value)).optional = Option.some value :=
  back.read

theorem Wire.RoundTrips.legible_of_mem {α : Type} [Wire α] {value : Option α}
    (back : RoundTrips value) : ∀ j ∈ value.map toJson, j.Legible := by
  cases value with
  | none => exact nofun
  | some a => exact fun j same => Option.some.inj same ▸ back.stable.legible

/-- What an optional field was written as is reread as it was. -/
theorem Wire.RoundTrips.map_reread {α : Type} [Wire α] {value : Option α}
    (back : RoundTrips value) : (value.map toJson).map Json.reread = value.map toJson := by
  cases value with
  | none => rfl
  | some a => exact congrArg Option.some (Json.reread_eq_self back.stable)

namespace Json

/-- The entries of a record that are written. -/
def written (fields : List (String × Option Json)) : List (String × Json) :=
  fields.filterMap fun e => e.2.map fun value => (e.1, value)

theorem filter_written_of_notMem {fields : List (String × Option Json)} {name : String}
    (absent : name ∉ fields.map Prod.fst) :
    (written fields).filter (fun e => [name].contains e.1) = [] := by
  refine List.filter_eq_nil_iff.mpr fun e member => ?_
  obtain ⟨field, there, value⟩ := List.mem_filterMap.mp member
  obtain ⟨_, -, rfl⟩ := Option.map_eq_some_iff.mp value
  have apart : field.1 ≠ name := fun same => absent (same ▸ List.mem_map_of_mem there)
  simpa using apart

/-- A name finds at most the field that it belongs to. -/
theorem filter_written {fields : List (String × Option Json)}
    (distinct : (fields.map Prod.fst).Nodup) {name : String} {value : Option Json}
    (member : (name, value) ∈ fields) :
    (written fields).filter (fun e => [name].contains e.1) =
      (value.map fun value => (name, value)).toList := by
  induction fields with
  | nil => cases member
  | cons field fields ih =>
      obtain ⟨absent, others⟩ := List.nodup_cons.mp distinct
      have split : written (field :: fields) =
          (field.2.map fun value => (field.1, value)).toList ++ written fields := by
        cases same : field.2 <;> simp [written, same]
      rw [split, List.filter_append]
      rcases List.mem_cons.mp member with rfl | later
      · rw [filter_written_of_notMem absent, List.append_nil]
        cases value <;> simp
      · have apart : field.1 ≠ name := fun same =>
          absent (same ▸ List.mem_map_of_mem (f := Prod.fst) later)
        rw [ih others later]
        cases field.2 <;> simp [apart]

/-- A field of a record is found in its document. -/
theorem slot?_written {fields : List (String × Option Json)}
    (distinct : (fields.map Prod.fst).Nodup) {name : String} {value : Option Json}
    (member : (name, value) ∈ fields) :
    slot? (written fields) [name] = some (Slot.ofField value) := by
  unfold slot?
  rw [filter_written distinct member]
  cases value <;> rfl

/-- **The fields of a record are found in its document.** -/
theorem slots?_record {fields : List (String × Option Json)}
    (distinct : (fields.map Prod.fst).Nodup) :
    (record fields).slots? (fields.map fun e => [e.1]) =
      some (fields.map fun e => Slot.ofField e.2) := by
  have each : ∀ some : List (String × Option Json), some ⊆ fields →
      (some.map fun e => [e.1]).mapM (slot? (written fields)) =
        Option.some (some.map fun e => Slot.ofField e.2) := by
    intro some inside
    induction some with
    | nil => rfl
    | cons field some ih =>
        obtain ⟨first, others⟩ := List.cons_subset.mp inside
        simp [slot?_written distinct first, ih others]
  exact each fields (List.Subset.refl fields)

/-- **A record is read from its document** as what is built of its fields. -/
theorem read_record {α : Type} {fields : List (String × Option Json)} {names : List (List String)}
    {build : List Slot → Option α} {a : α} (named : names = fields.map fun e => [e.1])
    (distinct : names.flatten.Nodup)
    (built : build (fields.map fun e => Slot.ofField e.2) = some a) :
    ((record fields).slots? names).bind build = some a := by
  subst named
  have keys : (fields.map fun e => [e.1]).flatten = fields.map Prod.fst := by
    rw [← List.flatMap_def]
    exact List.map_eq_flatMap.symm
  rw [slots?_record (keys ▸ distinct), Option.bind_some, built]

/-- A record is stable if all its fields are. -/
theorem stable_record {fields : List (String × Option Json)}
    (each : ∀ e ∈ fields, ∀ value ∈ e.2, value.Stable) : (record fields).Stable := by
  refine stable_object fun e member => ?_
  obtain ⟨field, there, value⟩ := List.mem_filterMap.mp member
  obtain ⟨_, present, rfl⟩ := Option.map_eq_some_iff.mp value
  exact each field there _ present

end Json

namespace Json

/-- A record is legible if all its fields are. -/
theorem legible_record {fields : List (String × Option Json)}
    (each : ∀ e ∈ fields, ∀ value ∈ e.2, value.Legible) : (record fields).Legible := by
  show FieldsLegible (written fields)
  induction fields with
  | nil => exact True.intro
  | cons field fields ih =>
      obtain ⟨first, others⟩ := List.forall_mem_cons.mp each
      obtain ⟨name, _ | value⟩ := field
      · exact ih others
      · exact ⟨first value rfl, ih others⟩

/-- A record is reread field by field. -/
theorem reread_record (fields : List (String × Option Json)) :
    (record fields).reread = record (fields.map fun e => (e.1, e.2.map reread)) := by
  show object (rereadFields (written fields)) = object (written _)
  congr 1
  induction fields with
  | nil => rfl
  | cons field fields ih =>
      obtain ⟨name, _ | value⟩ := field
      · exact ih
      · exact congrArg (_ :: ·) ih

end Json

/-! ## Depths and floats, entry by entry -/

namespace Json

theorem itemsDepth_le_iff {items : List Json} {limit : Nat} :
    itemsDepth items ≤ limit ↔ ∀ item ∈ items, item.depth ≤ limit := by
  induction items with
  | nil => simp [itemsDepth]
  | cons item rest ih => rw [itemsDepth, Nat.max_le, ih, List.forall_mem_cons]

theorem fieldsDepth_le_iff {fields : List (String × Json)} {limit : Nat} :
    fieldsDepth fields ≤ limit ↔ ∀ e ∈ fields, e.2.depth ≤ limit := by
  induction fields with
  | nil => simp [fieldsDepth]
  | cons field rest ih => rw [fieldsDepth, Nat.max_le, ih, List.forall_mem_cons]

theorem depth_record_le_iff {fields : List (String × Option Json)} {limit : Nat} :
    (record fields).depth ≤ limit + 1 ↔ ∀ e ∈ fields, ∀ value ∈ e.2, value.depth ≤ limit := by
  rw [record, depth, Nat.add_le_add_iff_right, fieldsDepth_le_iff]
  constructor
  · intro each e member value present
    exact each (e.1, value) (List.mem_filterMap.mpr ⟨e, member, Option.map_eq_some_iff.mpr
      ⟨value, present, rfl⟩⟩)
  · intro each e member
    obtain ⟨field, there, value⟩ := List.mem_filterMap.mp member
    obtain ⟨_, present, rfl⟩ := Option.map_eq_some_iff.mp value
    exact each field there _ present

theorem depth_list_le_iff {α : Type} [Wire α] {items : List α} {limit : Nat} :
    (toJson items).depth ≤ limit + 1 ↔ ∀ a ∈ items, (toJson a).depth ≤ limit := by
  show (Json.array (items.map toJson)).depth ≤ limit + 1 ↔ _
  rw [depth, Nat.add_le_add_iff_right, itemsDepth_le_iff, List.forall_mem_map]

theorem forall_fieldsFloats_iff {fields : List (String × Json)} {holds : Binary64 → Prop} :
    (∀ x ∈ fieldsFloats fields, holds x) ↔ ∀ e ∈ fields, ∀ x ∈ e.2.floats, holds x := by
  induction fields with
  | nil => simp [fieldsFloats]
  | cons field rest ih => rw [fieldsFloats, List.forall_mem_append, ih, List.forall_mem_cons]

end Json

namespace ParamMap

/-- What is said of the entries of a map's document is said of its lookups. -/
theorem forall_fields_iff (map : ParamMap) (holds : Json → Prop) :
    (∀ e ∈ map.toList.map fun e => (e.1, e.2.json), holds e.2) ↔
      ∀ key value, map.get? key = some value → holds value.json := by
  rw [List.forall_mem_map]
  constructor
  · exact fun each key value found => each _ ((KeyMap.lookup_eq_some_iff map.ascend).mp found)
  · exact fun each e member => each e.1 e.2 ((KeyMap.lookup_eq_some_iff map.ascend).mpr member)

theorem depth_toJson_le_iff {map : ParamMap} {limit : Nat} :
    map.toJson.depth ≤ limit + 1 ↔
      ∀ key value, map.get? key = some value → value.json.depth ≤ limit := by
  rw [toJson, Json.depth, Nat.add_le_add_iff_right, Json.fieldsDepth_le_iff]
  exact map.forall_fields_iff (·.depth ≤ limit)

theorem forall_floats_iff {map : ParamMap} {holds : Binary64 → Prop} :
    (∀ x ∈ map.toJson.floats, holds x) ↔
      ∀ key value, map.get? key = some value → ∀ x ∈ value.json.floats, holds x := by
  rw [toJson, Json.floats, Json.forall_fieldsFloats_iff]
  exact map.forall_fields_iff fun j => ∀ x ∈ j.floats, holds x

/-- A map is not nested more deeply when a key is taken out. -/
theorem depth_toJson_erase {map : ParamMap} {limit : Nat} (shallow : map.toJson.depth ≤ limit)
    (key : String) : (toJson (map.erase key)).depth ≤ limit := by
  cases limit with
  | zero => cases shallow
  | succ limit =>
      refine depth_toJson_le_iff.mpr fun wanted value found => ?_
      rw [KeyMap.get?_erase] at found
      split at found
      · cases found
      · exact depth_toJson_le_iff.mp shallow wanted value found

/-- A map has no other floats when a key is taken out. -/
theorem forall_floats_erase {map : ParamMap} {holds : Binary64 → Prop}
    (all : ∀ x ∈ map.toJson.floats, holds x) (key : String) :
    ∀ x ∈ (toJson (map.erase key)).floats, holds x := by
  refine forall_floats_iff.mpr fun wanted value found => ?_
  rw [KeyMap.get?_erase] at found
  split at found
  · cases found
  · exact forall_floats_iff.mp all wanted value found

end ParamMap

end StrategyDesk
