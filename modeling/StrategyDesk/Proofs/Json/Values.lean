import StrategyDesk.Json.Value
import StrategyDesk.Proofs.Json.KeyMaps

/-!
# Free-form values and their documents

A value is a canonical document, so that it is read from its document as it was.

## Main Statements

* `Json.canonical?_eq_some` — a canonical document is its own canonical form
* `Value.ofJson?_json`, `ParamMap.ofJson?_toJson` — values and maps of values are read from their
  documents
-/

namespace StrategyDesk

namespace Json

mutual

/-- **A canonical document is its own canonical form.** -/
theorem canonical?_eq_some {j : Json} (canonical : j.IsCanonical) : j.canonical? = some j := by
  match j with
  | .unreadable => simp [IsCanonical] at canonical
  | .null | .bool _ | .string _ => simp [canonical?]
  | .number n =>
      have number : n.IsCanonical := by simpa [IsCanonical] using canonical
      simp [canonical?, number]
  | .array items =>
      have each : ItemsCanonical items := by simpa [IsCanonical] using canonical
      simp [canonical?, canonicalItems?_eq_some each]
  | .object fields =>
      have both : KeysAscend fields ∧ FieldsCanonical fields := by
        simpa [IsCanonical] using canonical
      have sorted : (KeyMap.ofList fields).toList = fields :=
        congrArg KeyMap.toList (KeyMap.ofList_toList ⟨fields, both.1⟩)
      simp [canonical?, canonicalFields?_eq_some both.2, sorted]

theorem canonicalItems?_eq_some {items : List Json} (canonical : ItemsCanonical items) :
    canonicalItems? items = some items := by
  match items with
  | [] => rfl
  | item :: rest =>
      obtain ⟨head, tail⟩ : item.IsCanonical ∧ ItemsCanonical rest := by
        simpa [ItemsCanonical] using canonical
      simp [canonicalItems?, canonical?_eq_some head, canonicalItems?_eq_some tail]

theorem canonicalFields?_eq_some {fields : List (String × Json)}
    (canonical : FieldsCanonical fields) : canonicalFields? fields = some fields := by
  match fields with
  | [] => rfl
  | (key, value) :: rest =>
      obtain ⟨head, tail⟩ : value.IsCanonical ∧ FieldsCanonical rest := by
        simpa [FieldsCanonical] using canonical
      simp [canonicalFields?, canonical?_eq_some head, canonicalFields?_eq_some tail]

end

end Json

namespace Value

/-- A value is read from its document. -/
theorem ofJson?_json (value : Value) : ofJson? value.json = some value := by
  unfold ofJson?
  split
  · next none =>
    rw [Json.canonical?_eq_some value.canonical] at none
    cases none
  · next form some =>
    rw [Json.canonical?_eq_some value.canonical] at some
    obtain rfl := Option.some.inj some
    rfl

end Value

namespace ParamMap

/-- **A map of values is read from its document.** -/
theorem ofJson?_toJson (map : ParamMap) : ofJson? map.toJson = some map := by
  have each : (map.toList.map fun e => (e.1, e.2.json)).mapM
      (fun e => (Value.ofJson? e.2).map fun v => (e.1, v)) = some map.toList := by
    induction map.toList with
    | nil => rfl
    | cons head rest ih => simp [Value.ofJson?_json, ih]
  have read : ofJson? map.toJson = (some map.toList).map KeyMap.ofList :=
    congrArg (Option.map KeyMap.ofList) each
  rw [read, Option.map_some, KeyMap.ofList_toList]

end ParamMap

namespace Value

@[simp] theorem map?_ofMap (map : ParamMap) : (ofMap map).map? = some map :=
  map.ofJson?_toJson

end Value

end StrategyDesk
