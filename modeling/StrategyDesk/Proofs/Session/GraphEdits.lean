import StrategyDesk.Proofs.Strategy.Editing
import StrategyDesk.Session.GraphFile

/-!
# What commands make of documents

A command takes the strategy in a file and fails, leaves the file alone, or gives the strategy whose
document it writes.  An edit performs one operation, and only if what the operation names is there.

## Main Definitions

* `Graph.ofFile` — the strategy in a file
* `GraphCommand.result` — what a command makes of a file
* `GraphEdit.operation?`, `Graph.Operation.IsGrounded` — the operation that an edit asks for, and
  operations that name only what is there

## Main Statements

* `GraphEdit.apply_eq_ok` — an edit that can be made performs its operation
* `GraphCommand.of_result` — where a strategy that is written comes from
-/

namespace StrategyDesk

/-! ## Results -/

/-- The strategy of a file with a text, if there is such a file. -/
def Graph.ofFile (text? : Option String) : Except Failure Graph :=
  match text? with
  | some text => (Graph.parse text).mapError .error
  | none => .error (.error (.file .notFound))

section Except

variable {ε ε' α β : Type} {result : Except ε α}

theorem mapError_eq_ok {f : ε → ε'} {a : α} : result.mapError f = .ok a ↔ result = .ok a := by
  cases result with
  | error why => exact ⟨nofun, nofun⟩
  | ok held =>
      exact ⟨fun same => congrArg Except.ok (Except.ok.inj same),
        fun same => congrArg Except.ok (Except.ok.inj same)⟩

theorem map_eq_ok {f : α → β} {b : β} : result.map f = .ok b ↔ ∃ a, result = .ok a ∧ f a = b := by
  cases result <;> simp [Except.map]

end Except

/-- The strategy of a file is read from its text. -/
theorem Graph.ofFile_eq_ok {text? : Option String} {graph : Graph} :
    Graph.ofFile text? = .ok graph ↔ ∃ text, text? = some text ∧ Graph.parse text = .ok graph := by
  cases text? with
  | none => exact ⟨nofun, nofun⟩
  | some text =>
      have read : Graph.ofFile (some text) = (Graph.parse text).mapError .error := rfl
      rw [read, mapError_eq_ok]
      exact ⟨fun ok => ⟨text, rfl, ok⟩, fun ⟨_, same, ok⟩ => Option.some.inj same ▸ ok⟩

/-- What an edit makes of a file with a text: the strategy after it, or why it fails. -/
def GraphEdit.result (catalog : List Indicator) (text? : Option String) (change : GraphEdit) :
    Except Failure Graph := do
  change.check
  let graph ← Graph.ofFile text?
  let (after, _) ← change.apply catalog graph
  return after

/-- What a command makes of a file with a text: the strategy that it writes, if it writes one, or
why it fails. -/
def GraphCommand.result (catalog : List Indicator) (path : String) (text? : Option String) :
    GraphCommand → Except Failure (Option Graph)
  | .create name => if text?.isSome then .error (.fileExists path) else .ok (some (created name))
  | .view | .normalize => (Graph.ofFile text?).map fun _ => none
  | .edit change => (change.result catalog text?).map some

namespace GraphEdit

variable {catalog : List Indicator} {text? : Option String} {change : GraphEdit} {graph : Graph}
variable {why : Failure}

theorem result_of_refused (check : change.check = .error why) :
    change.result catalog text? = .error why := by
  unfold result
  rw [check]
  rfl

theorem result_of_unread (check : change.check = .ok ()) (found : Graph.ofFile text? = .error why) :
    change.result catalog text? = .error why := by
  unfold result
  rw [check, found]
  rfl

theorem result_of_found (check : change.check = .ok ()) (found : Graph.ofFile text? = .ok graph) :
    change.result catalog text? = (change.apply catalog graph).map Prod.fst := by
  unfold result
  rw [check, found]
  show (change.apply catalog graph).bind _ = _
  cases change.apply catalog graph <;> rfl

/-- An edit that comes to a strategy was made of the one in the file. -/
theorem result_eq_ok (made : change.result catalog text? = .ok graph) :
    ∃ found remark, change.check = .ok () ∧ Graph.ofFile text? = .ok found ∧
      change.apply catalog found = .ok (graph, remark) := by
  cases check : change.check with
  | error why =>
      rw [result_of_refused check] at made
      cases made
  | ok _ =>
      cases read : Graph.ofFile text? with
      | error why =>
          rw [result_of_unread check read] at made
          cases made
      | ok found =>
          rw [result_of_found check read] at made
          obtain ⟨⟨_, remark⟩, applied, rfl⟩ := map_eq_ok.mp made
          exact ⟨found, remark, rfl, rfl, applied⟩

end GraphEdit

/-! ## Edits as operations -/

namespace GraphEdit

/-- The operation that an edit asks for, if the catalog has what it names. -/
def operation? (catalog : List Indicator) : GraphEdit → Option Graph.Operation
  | addIndicator name =>
    (catalog.find? fun indicator => sameIgnoringCase indicator.id name).map .addIndicator
  | addLogic => some .addLogic
  | addAction side => some (.addAction side)
  | connect source target input =>
    let edge := Edge.between source target
    some (.connect ((input.map edge.into).getD edge))
  | set edit => some (.apply edit)
  | removeNode id => some (.removeNode id)
  | removeEdge index => some (.removeEdge index)
  | layout => some .autoLayout

end GraphEdit

/-- An operation names only nodes and edges that are there. -/
def Graph.Operation.IsGrounded (graph : Graph) : Graph.Operation → Prop
  | connect edge => graph.node? edge.source ≠ none ∧ graph.node? edge.target ≠ none
  | removeNode id => graph.node? id ≠ none
  | removeEdge index => index < graph.edges.length
  | apply edit => graph.node? edit.node ≠ none
  | addIndicator _ | addLogic | addAction _ | autoLayout | rename _ => True

/-- An edge that may be led into an input has the ends that it had. -/
theorem Edge.ends_getD_into (edge : Edge) (input : Option LogicInput) :
    ((input.map edge.into).getD edge).source = edge.source ∧
      ((input.map edge.into).getD edge).target = edge.target := by
  cases input <;> exact ⟨rfl, rfl⟩

namespace GraphEdit

variable {catalog : List Indicator} {change : GraphEdit} {graph after : Graph}

/-- Only the removal of a node asks for the operation that removes it. -/
theorem eq_removeNode {id : String} (means : change.operation? catalog = some (.removeNode id)) :
    change = .removeNode id := by
  cases change with
  | addIndicator name =>
      obtain ⟨indicator, -, other⟩ := Option.map_eq_some_iff.mp means
      cases other
  | removeNode gone =>
      cases means
      rfl
  | addLogic | addAction _ | connect _ _ _ | set _ | removeEdge _ | layout => cases means

/-- An edit that adds a node can be made. -/
theorem apply_of_newNode? {operation : Graph.Operation} {stem : String} {make : String → Node}
    (means : change.operation? catalog = some operation)
    (adds : operation.newNode? graph.nodes.length = some (stem, make)) :
    change.check = .ok () ∧
      ∃ remark, change.apply catalog graph = .ok ((graph.addNode stem make).1, remark) := by
  cases change with
  | addIndicator name =>
      obtain ⟨indicator, there, rfl⟩ := Option.map_eq_some_iff.mp means
      obtain ⟨rfl, rfl⟩ := Prod.mk.inj (Option.some.inj adds)
      refine ⟨rfl, some s!"Added {(graph.addIndicator indicator).2}", ?_⟩
      simp only [apply, there]
      rfl
  | addLogic | addAction _ =>
      obtain rfl := Option.some.inj means
      obtain ⟨rfl, rfl⟩ := Prod.mk.inj (Option.some.inj adds)
      exact ⟨rfl, _, rfl⟩
  | connect _ _ _ | set _ | removeNode _ | removeEdge _ | layout =>
      obtain rfl := Option.some.inj means
      cases adds

/-- An edit that can be made performs its operation, which names only what is there. -/
theorem apply_eq_ok {remark : Option String}
    (applied : change.apply catalog graph = .ok (after, remark)) :
    ∃ operation, change.operation? catalog = some operation ∧ operation.IsGrounded graph ∧
      (graph.perform operation).1 = after := by
  unfold apply at applied
  cases change with
  | addIndicator name =>
      dsimp only at applied
      split at applied
      · next indicator found =>
          cases applied
          exact ⟨.addIndicator indicator, by rw [operation?, found]; rfl, trivial, rfl⟩
      · cases applied
  | addLogic =>
      cases applied
      exact ⟨.addLogic, rfl, trivial, rfl⟩
  | addAction side =>
      cases applied
      exact ⟨.addAction side, rfl, trivial, rfl⟩
  | connect source target input =>
      dsimp only at applied
      split at applied
      · cases applied
      · next all =>
          cases applied
          have there := List.find?_eq_none.mp all
          obtain ⟨begins, ends⟩ := Edge.ends_getD_into (.between source target) input
          refine ⟨_, rfl, ⟨?_, ?_⟩, rfl⟩
          · rw [begins]
            simpa [Edge.between] using there source (by simp)
          · rw [ends]
            simpa [Edge.between] using there target (by simp)
  | set edit =>
      dsimp only at applied
      split at applied
      · next result stored made =>
          cases applied
          refine ⟨.apply edit, rfl, fun missing => ?_, by rw [Graph.perform, made]⟩
          rw [Graph.apply, missing] at made
          cases made
      · cases applied
      · cases applied
  | removeNode id =>
      dsimp only at applied
      split at applied
      · next result removed =>
          cases applied
          refine ⟨.removeNode id, rfl, fun missing => ?_, by rw [Graph.perform, removed]; rfl⟩
          rw [Graph.removeNode, missing] at removed
          cases removed
      · cases applied
  | removeEdge index =>
      dsimp only at applied
      split at applied
      · next result removed =>
          cases applied
          refine ⟨.removeEdge index, rfl, ?_, by rw [Graph.perform, removed]; rfl⟩
          obtain ⟨edge, there, -⟩ := Option.map_eq_some_iff.mp removed
          exact (List.getElem?_eq_some_iff.mp there).1
      · cases applied
  | layout =>
      cases applied
      exact ⟨.autoLayout, rfl, trivial, rfl⟩

end GraphEdit

namespace GraphCommand

variable {command : GraphCommand} {catalog : List Indicator} {path : String}
variable {text? : Option String} {graph : Graph}

/-- A strategy that is written is a new one, where there was no file, or the one in the file after
an operation. -/
theorem of_result (written : command.result catalog path text? = .ok (some graph)) :
    (∃ name, command = .create name ∧ text? = none ∧ graph = created name) ∨
      ∃ change operation found, command = .edit change ∧ change.check = .ok () ∧
        Graph.ofFile text? = .ok found ∧ change.operation? catalog = some operation ∧
        operation.IsGrounded found ∧ graph = (found.perform operation).1 := by
  cases command with
  | create name =>
      left
      cases text? with
      | some text => cases written
      | none =>
          cases written
          exact ⟨name, rfl, rfl, rfl⟩
  | view | normalize =>
      obtain ⟨_, -, nothing⟩ := map_eq_ok.mp written
      cases nothing
  | edit change =>
      right
      obtain ⟨after, made, same⟩ := map_eq_ok.mp written
      cases same
      obtain ⟨found, remark, check, read, applied⟩ := GraphEdit.result_eq_ok made
      obtain ⟨operation, means, grounded, same⟩ := GraphEdit.apply_eq_ok applied
      exact ⟨change, operation, found, rfl, check, read, means, grounded, same.symm⟩

/-- A strategy that is written comes about by editing. -/
theorem reachable_of_result (written : command.result catalog path text? = .ok (some graph)) :
    Graph.Reachable graph := by
  rcases of_result written with ⟨name, -, -, rfl⟩ | ⟨_, operation, found, -, -, read, -, -, rfl⟩
  · cases name with
    | none => exact .initial
    | some name => exact .perform (.rename name) .initial
  · obtain ⟨text, -, parsed⟩ := Graph.ofFile_eq_ok.mp read
    exact .perform operation (.read parsed)

end GraphCommand

end StrategyDesk
