import StrategyDesk.Json.Basic

/-!
# Free-form values

What a field of free form holds: a document in canonical form. Of repeated keys the last one
counts, and the order of the fields is that of the keys.

## Main Definitions

* `Value` — a canonical document
* `ParamMap` — a map of values
* `Value.ofJson?` — the value of a document, if every number and string in it has one
-/

namespace StrategyDesk

namespace Json

mutual

/-- The document with the fields of every object in ascending order, the last of those with one
key kept. There is none if some number or string stands for no value. -/
def canonical? : Json → Option Json
  | .unreadable => none
  | .null => some .null
  | .bool b => some (.bool b)
  | .number n => if n.IsCanonical then some (.number n) else none
  | .string s => some (.string s)
  | .array items => (canonicalItems? items).map .array
  | .object fields =>
    (canonicalFields? fields).map fun fields => .object (KeyMap.ofList fields).toList

/-- The items in canonical form. -/
def canonicalItems? : List Json → Option (List Json)
  | [] => some []
  | item :: rest => do some ((← item.canonical?) :: (← canonicalItems? rest))

/-- The values of the fields in canonical form. -/
def canonicalFields? : List (String × Json) → Option (List (String × Json))
  | [] => some []
  | (key, value) :: rest => do some ((key, ← value.canonical?) :: (← canonicalFields? rest))

end

theorem fieldsCanonical_iff {fields : List (String × Json)} :
    FieldsCanonical fields ↔ ∀ e ∈ fields, e.2.IsCanonical := by
  induction fields with
  | nil => simp [FieldsCanonical]
  | cons head rest ih => simp [FieldsCanonical, ih]

theorem fieldsCanonical_insertAll {entries : List (String × Json)} {m : KeyMap Json}
    (hmap : FieldsCanonical m.toList) (h : FieldsCanonical entries) :
    FieldsCanonical (m.insertAll entries).toList := by
  induction entries generalizing m with
  | nil => exact hmap
  | cons head rest ih =>
    refine ih (m := m.insert head.1 head.2) ?_ h.2
    rw [fieldsCanonical_iff] at hmap ⊢
    intro e he
    rcases KeyMap.mem_insertEntry he with he | he
    · exact he ▸ h.1
    · exact hmap e he

mutual

/-- A canonical form is canonical. -/
theorem isCanonical_of_canonical? {j c : Json} (h : j.canonical? = some c) : c.IsCanonical := by
  match j with
  | .unreadable => simp [canonical?] at h
  | .null | .bool _ | .string _ =>
    simp only [canonical?, Option.some.injEq] at h
    subst h
    simp [IsCanonical]
  | .number n =>
    simp only [canonical?] at h
    split at h
    · next hn =>
      obtain rfl := Option.some.inj h
      simpa [IsCanonical] using hn
    · contradiction
  | .array items =>
    simp only [canonical?, Option.map_eq_some_iff] at h
    obtain ⟨cs, hcs, rfl⟩ := h
    simpa [IsCanonical] using itemsCanonical_of_canonicalItems? hcs
  | .object fields =>
    simp only [canonical?, Option.map_eq_some_iff] at h
    obtain ⟨cs, hcs, rfl⟩ := h
    simp only [IsCanonical]
    have empty : FieldsCanonical KeyMap.empty.toList := by simp [KeyMap.empty, FieldsCanonical]
    exact ⟨(KeyMap.ofList cs).ascend,
      fieldsCanonical_insertAll empty (fieldsCanonical_of_canonicalFields? hcs)⟩

theorem itemsCanonical_of_canonicalItems? {items cs : List Json}
    (h : canonicalItems? items = some cs) : ItemsCanonical cs := by
  match items with
  | [] =>
    obtain rfl := Option.some.inj h
    simp [ItemsCanonical]
  | item :: rest =>
    simp only [canonicalItems?, Option.bind_eq_bind, Option.bind_eq_some_iff,
      Option.some.injEq] at h
    obtain ⟨c, hc, cs', hcs', rfl⟩ := h
    exact ⟨isCanonical_of_canonical? hc, itemsCanonical_of_canonicalItems? hcs'⟩

theorem fieldsCanonical_of_canonicalFields? {fields cs : List (String × Json)}
    (h : canonicalFields? fields = some cs) : FieldsCanonical cs := by
  match fields with
  | [] =>
    obtain rfl := Option.some.inj h
    simp [FieldsCanonical]
  | (key, value) :: rest =>
    simp only [canonicalFields?, Option.bind_eq_bind, Option.bind_eq_some_iff,
      Option.some.injEq] at h
    obtain ⟨c, hc, cs', hcs', rfl⟩ := h
    exact ⟨isCanonical_of_canonical? hc, fieldsCanonical_of_canonicalFields? hcs'⟩

end

end Json

/-- A free-form value. -/
structure Value where
  json : Json
  canonical : json.IsCanonical
deriving DecidableEq

/-- A map of free-form values. -/
abbrev ParamMap := KeyMap Value

namespace Value

/-- The value of a document. -/
def ofJson? (j : Json) : Option Value :=
  match h : j.canonical? with
  | none => none
  | some c => some ⟨c, Json.isCanonical_of_canonical? h⟩

/-- A text as a value. -/
def ofString (s : String) : Value := ⟨.string s, by simp [Json.IsCanonical]⟩

/-- The value `null`. -/
def null : Value := ⟨.null, by simp [Json.IsCanonical]⟩

instance : Inhabited Value := ⟨null⟩

/-- The text of a value that is one. -/
def text? (v : Value) : Option String :=
  match v.json with
  | .string s => some s
  | _ => none

end Value

namespace ParamMap

/-- The map as a document. -/
def toJson (map : ParamMap) : Json := .object (map.toList.map fun e => (e.1, e.2.json))

theorem isCanonical_toJson (map : ParamMap) : map.toJson.IsCanonical := by
  refine ⟨List.pairwise_map.mpr map.ascend, Json.fieldsCanonical_iff.mpr fun e he => ?_⟩
  obtain ⟨entry, _, rfl⟩ := List.mem_map.mp he
  exact entry.2.canonical

/-- The fields of a document, their values read; of several with one key the last stays. -/
def ofFields? (fields : List (String × Json)) : Option ParamMap :=
  (fields.mapM fun e => (Value.ofJson? e.2).map fun v => (e.1, v)).map KeyMap.ofList

/-- The map of a document that is an object. -/
def ofJson? : Json → Option ParamMap
  | .object fields => ofFields? fields
  | _ => none

end ParamMap

namespace Value

/-- A map as a value. -/
def ofMap (map : ParamMap) : Value := ⟨map.toJson, map.isCanonical_toJson⟩

/-- The map of a value that is an object. -/
def map? (v : Value) : Option ParamMap := ParamMap.ofJson? v.json

end Value

end StrategyDesk
