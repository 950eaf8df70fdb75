import StrategyDesk.Proofs.Strategy.Edits

/-!
# Numerals in numeric fields

What a numeric field stores of a typed text is a numeral: digits, with one point among them at most.
New nodes hold numerals in their numeric fields, or values that are no texts, if the catalog gives
their indicators such parameters to start with; and nothing but an edit ever writes to a field.  So
the fields hold numerals however a new strategy is edited.

## Main Definitions

* `IsNumeral` — a text of digits and at most one point
* `ParamMap.HoldsNumerals`, `Node.HoldsNumerals` — the texts in numeric fields are numerals
* `Graph.Operation.StartsWithNumerals` — an added indicator starts with such parameters

## Main Statements

* `acceptInput_eq_ok_iff` — which texts a numeric field takes, and what it stores of them
* `acceptInput_self_iff` — the texts that are stored as they are typed are the numerals
* `Graph.holdsNumerals_edited` — nodes hold numerals however a new strategy is edited
* `Graph.numeric_fields_hold_numerals` — all of this
-/

namespace StrategyDesk

/-! ## Numerals -/

/-- ASCII digits, and at most one point among them. -/
structure IsNumeral (text : String) : Prop where
  chars : ∀ c ∈ text.toList, c.isDigit = true ∨ c = '.'
  points : text.toList.count '.' ≤ 1

theorem isNumberChar_iff (c : Char) : isNumberChar c = true ↔ c.isDigit = true ∨ c = '.' := by
  unfold isNumberChar
  rw [Bool.or_eq_true, beq_iff_eq]

theorem isNumeral_iff (text : String) :
    IsNumeral text ↔ text.toList.all isNumberChar = true ∧ text.toList.count '.' ≤ 1 := by
  simp only [List.all_eq_true, isNumberChar_iff]
  exact ⟨fun numeral => ⟨numeral.chars, numeral.points⟩, fun all => ⟨all.1, all.2⟩⟩

instance (text : String) : Decidable (IsNumeral text) :=
  decidable_of_iff' _ (isNumeral_iff text)

section Fields

variable {field typed stored : String}

/-- A numeric field takes the texts with at most one point, and stores their digits and points. -/
theorem acceptInput_eq_ok_iff (numeric : field ∈ numericFields) :
    acceptInput field typed = .ok stored ↔
      typed.toList.count '.' ≤ 1 ∧ stored = String.ofList (typed.toList.filter isNumberChar) := by
  have numeric' : isNumericField field = true := List.contains_iff_mem.mpr numeric
  rw [acceptInput_eq, sanitized, if_pos numeric']
  by_cases several : 1 < typed.toList.count '.'
  · rw [if_pos ⟨numeric', several⟩]
    exact iff_of_false nofun fun all => Nat.not_lt.mpr all.1 several
  · rw [if_neg fun all => several all.2, Except.ok.injEq]
    constructor
    · rintro rfl
      exact ⟨Nat.le_of_not_lt several, rfl⟩
    · rintro ⟨-, rfl⟩
      rfl

/-- **What a numeric field stores is a numeral.** -/
theorem isNumeral_of_acceptInput (numeric : field ∈ numericFields)
    (accepted : acceptInput field typed = .ok stored) : IsNumeral stored := by
  obtain ⟨single, rfl⟩ := (acceptInput_eq_ok_iff numeric).mp accepted
  constructor
  · intro c member
    rw [String.toList_ofList] at member
    exact (isNumberChar_iff c).mp (List.mem_filter.mp member).2
  · rw [String.toList_ofList, List.count_filter rfl]
    exact single

/-- **The texts that a numeric field stores as they are typed are the numerals.** -/
theorem acceptInput_self_iff (numeric : field ∈ numericFields) :
    acceptInput field typed = .ok typed ↔ IsNumeral typed := by
  constructor
  · exact isNumeral_of_acceptInput numeric
  · intro numeral
    have all : typed.toList.filter isNumberChar = typed.toList :=
      List.filter_eq_self.mpr fun c member => (isNumberChar_iff c).mpr (numeral.chars c member)
    rw [acceptInput_eq_ok_iff numeric, all, String.ofList_toList]
    exact ⟨numeral.points, rfl⟩

end Fields

/-! ## Parameters and nodes -/

/-- The texts in the numeric fields of a map are numerals; values of other kinds may stand there. -/
def ParamMap.HoldsNumerals (map : ParamMap) : Prop :=
  ∀ field ∈ numericFields, ∀ text ∈ (map.get? field).bind Value.text?, IsNumeral text

instance (map : ParamMap) : Decidable map.HoldsNumerals :=
  inferInstanceAs (Decidable (∀ field ∈ numericFields, ∀ text ∈ _, IsNumeral text))

namespace ParamMap

theorem holdsNumerals_empty : HoldsNumerals .empty := nofun

/-- A text that is put into a map must be a numeral only if its field is a numeric one. -/
theorem HoldsNumerals.insert {map : ParamMap} (holds : map.HoldsNumerals) {key stored : String}
    (numeral : key ∈ numericFields → IsNumeral stored) :
    HoldsNumerals (KeyMap.insert map key (.ofString stored)) := by
  intro field numeric text found
  rw [KeyMap.get?_insert] at found
  by_cases here : field = key
  · subst here
    rw [if_pos rfl] at found
    obtain rfl : stored = text := Option.some.inj found
    exact numeral numeric
  · rw [if_neg here] at found
    exact holds field numeric text found

end ParamMap

namespace Node

/-- The texts in the numeric fields of a node are numerals, among its parameters and in its
data. -/
structure HoldsNumerals (node : Node) : Prop where
  parameters : ParamMap.HoldsNumerals node.parameters
  data : ParamMap.HoldsNumerals node.data

/-- What a field stores of a typed text keeps a node so. -/
theorem HoldsNumerals.writeField {node : Node} (holds : node.HoldsNumerals)
    {field typed stored : String} (accepted : acceptInput field typed = .ok stored) :
    (Graph.writeField node field stored).HoldsNumerals := by
  have numeral : field ∈ numericFields → IsNumeral stored :=
    fun numeric => isNumeral_of_acceptInput numeric accepted
  refine ⟨holds.parameters.insert numeral, ?_⟩
  unfold Graph.writeField
  dsimp only
  split
  · exact holds.data.insert numeral
  · exact holds.data

end Node

namespace Graph

/-! ## Operations -/

/-- An operation adds no indicator, or one whose starting parameters hold numerals in the numeric
fields. -/
def Operation.StartsWithNumerals : Operation → Prop
  | addIndicator indicator => ParamMap.HoldsNumerals indicator.startingParams
  | addLogic | addAction _ | connect _ | removeNode _ | removeEdge _ | autoLayout | rename _
  | apply _ => True

/-- New nodes hold numerals: the texts in their other fields stand under names of no numeric
field. -/
theorem holdsNumerals_new {operation : Operation} {size : Nat} {stem : String}
    {make : String → Node} (starts : operation.StartsWithNumerals)
    (adds : operation.newNode? size = some (stem, make)) (id : String) :
    (make id).HoldsNumerals := by
  have none (key stored : String) (other : key ∉ numericFields) :
      key ∈ numericFields → IsNumeral stored := fun numeric => absurd numeric other
  have blank (key : String) : key ∈ numericFields → IsNumeral "" := fun _ => by decide
  have empty := ParamMap.holdsNumerals_empty
  cases operation with
  | addIndicator indicator =>
      obtain ⟨-, rfl⟩ := Prod.mk.inj (Option.some.inj adds)
      exact ⟨starts, ((empty.insert (none "id" indicator.id (by decide))).insert
        (none "name" indicator.name (by decide))).insert
        (none "category" indicator.category (by decide))⟩
  | addLogic =>
      obtain ⟨-, rfl⟩ := Prod.mk.inj (Option.some.inj adds)
      have operator := empty.insert (none "operator" "crossunder" (by decide))
      exact ⟨operator.insert (blank "value"), empty⟩
  | addAction side =>
      obtain ⟨-, rfl⟩ := Prod.mk.inj (Option.some.inj adds)
      have sided := empty.insert (none sideKey side.name (by decide))
      exact ⟨(sided.insert (blank "stopLoss")).insert (blank "takeProfit"), sided⟩
  | connect _ | removeNode _ | removeEdge _ | autoLayout | rename _ | apply _ => cases adds

/-- **Nodes hold numerals however a new strategy is edited**, if the indicators that are added start
with numerals. -/
theorem holdsNumerals_edited (operations : List Operation) :
    (∀ operation ∈ operations, operation.StartsWithNumerals) →
      ∀ node ∈ (initial.edited operations).nodes, node.HoldsNumerals := by
  induction operations using List.reverseRecOn with
  | nil =>
      intro _ node member
      rw [List.mem_singleton.mp member]
      exact ⟨ParamMap.holdsNumerals_empty, ParamMap.holdsNumerals_empty⟩
  | append_singleton operations operation ih =>
      intro starts
      have before := ih fun earlier member => starts earlier (List.mem_append_left _ member)
      have now := starts operation (List.mem_append_right _ List.mem_cons_self)
      rw [edited_concat]
      exact (performed _ operation).forall_nodes Node.HoldsNumerals (holdsNumerals_new now)
        (fun _ _ holds => ⟨holds.parameters, holds.data⟩)
        (fun _ _ _ _ accepted holds => holds.writeField accepted) before

/-! ## All of it -/

/-- **Numeric fields hold numerals.**  However a new strategy is edited, with indicators that start
with numerals, the texts in the numeric fields of its nodes are numerals.  A numeric field takes
exactly the texts with at most one point; it stores their digits and points in their order, and
takes what it has stored as it is. -/
theorem numeric_fields_hold_numerals :
    (∀ operations : List Operation, (∀ operation ∈ operations, operation.StartsWithNumerals) →
      ∀ node ∈ (initial.edited operations).nodes, ∀ field ∈ numericFields, ∀ text : String,
        node.parameters.get? field = some (.ofString text) ∨
          node.data.get? field = some (.ofString text) → IsNumeral text) ∧
    ∀ field ∈ numericFields, ∀ typed : String,
      ((∃ stored, acceptInput field typed = .ok stored) ↔ typed.toList.count '.' ≤ 1) ∧
      ∀ stored, acceptInput field typed = .ok stored →
        stored.toList = typed.toList.filter (fun c => c.isDigit || c == '.') ∧
          acceptInput field stored = .ok stored := by
  refine ⟨?_, fun field numeric typed => ⟨?_, ?_⟩⟩
  · intro operations starts node member field numeric text held
    have holds := holdsNumerals_edited operations starts node member
    rcases held with parameter | datum
    · exact holds.parameters field numeric text (by rw [parameter]; rfl)
    · exact holds.data field numeric text (by rw [datum]; rfl)
  · simp only [acceptInput_eq_ok_iff numeric, exists_and_left, exists_eq, and_true]
  · intro stored accepted
    refine ⟨?_, (acceptInput_self_iff numeric).mpr (isNumeral_of_acceptInput numeric accepted)⟩
    rw [((acceptInput_eq_ok_iff numeric).mp accepted).2, String.toList_ofList]
    rfl

/-- The catalog gives an indicator a number and a numeral to start with.  Then a stop loss is typed
with a sign and a unit, and a take profit with two points, which is refused. -/
theorem numeric_fields_hold_numerals_bands :
    let bands : Indicator := ⟨"bands", "Bands", "volatility", none, some (.ofList
      [("period", ⟨.number (.integer 20), by decide⟩), ("std_dev", .ofString "2.0")])⟩
    let operations : List Operation := [.addIndicator bands, .addAction .sell,
      .apply ⟨"action-2", "stopLoss", "-2.5%"⟩, .apply ⟨"action-2", "takeProfit", "1.2.3"⟩]
    (∀ operation ∈ operations, operation.StartsWithNumerals) ∧
      (∃ node ∈ (initial.edited operations).nodes,
        node.data.get? "stopLoss" = some (.ofString "2.5") ∧
          node.parameters.get? "takeProfit" = some (.ofString "") ∧ IsNumeral "2.5") ∧
      (¬∃ stored, acceptInput "takeProfit" "1.2.3" = .ok stored) ∧
      acceptInput "stopLoss" "-2.5%" = .ok "2.5" ∧ acceptInput "stopLoss" "2.5" = .ok "2.5" := by
  intro bands operations
  obtain ⟨fields, texts⟩ := numeric_fields_hold_numerals
  have starts : ∀ operation ∈ operations, operation.StartsWithNumerals := by
    have first : ParamMap.HoldsNumerals bands.startingParams := by decide
    simpa [operations, Operation.StartsWithNumerals] using first
  have edited : ((initial.edited operations).nodes[2]?.map fun node =>
      (node.data.get? "stopLoss", node.parameters.get? "takeProfit")) =
        some (some (.ofString "2.5"), some (.ofString "")) := by decide
  obtain ⟨node, third, held⟩ := Option.map_eq_some_iff.mp edited
  obtain ⟨stopLoss, takeProfit⟩ := Prod.mk.inj held
  have member := List.mem_of_getElem? third
  have numeral := fields operations starts node member "stopLoss" (by decide) "2.5" (.inr stopLoss)
  have accepted : acceptInput "stopLoss" "-2.5%" = .ok "2.5" := by decide
  refine ⟨starts, ⟨node, member, stopLoss, takeProfit, numeral⟩, ?_, accepted, ?_⟩
  · exact mt (texts "takeProfit" (by decide) "1.2.3").1.mp (by decide)
  · exact ((texts "stopLoss" (by decide) "-2.5%").2 "2.5" accepted).2

end Graph

end StrategyDesk
