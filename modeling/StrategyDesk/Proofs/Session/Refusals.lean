import StrategyDesk.Proofs.Session.GraphTurns

/-!
# Commands that are refused

Where a file holds a strategy, a command on it fails exactly for one of a few reasons: the file is
there already, something that the command names is not, an input is not accepted, or the start node
would be lost.  A command that fails leaves the files as they are.

## Main Definitions

* `GraphCommand.Refused` — the reasons why a command fails

## Main Statements

* `GraphCommand.isOk_result_iff` — a command fails exactly if it is refused
* `GraphTurn.exitCode_eq_one_iff`, `GraphTurn.after_of_failed` — the exit code of a turn, and the
  files after one that fails
-/

namespace StrategyDesk

/-- Why a command on a file with a strategy fails. -/
inductive GraphCommand.Refused (catalog : List Indicator) (graph : Graph) : GraphCommand → Prop
  | fileExists {name} : Refused catalog graph (.create name)
  | unknownIndicator {name} (missing : catalog.find? (sameIgnoringCase ·.id name) = none) :
      Refused catalog graph (.edit (.addIndicator name))
  | unknownEnd {source target input}
      (missing : graph.node? source = none ∨ graph.node? target = none) :
      Refused catalog graph (.edit (.connect source target input))
  | unknownNode {edit} (missing : graph.node? edit.node = none) :
      Refused catalog graph (.edit (.set edit))
  | rejectedInput {edit why} (rejected : acceptInput edit.field edit.typed = .error why) :
      Refused catalog graph (.edit (.set edit))
  | startNode : Refused catalog graph (.edit (.removeNode Graph.startId))
  | unknownRemoved {id} (missing : graph.node? id = none) :
      Refused catalog graph (.edit (.removeNode id))
  | unknownEdge {index} (missing : graph.edges.length ≤ index) :
      Refused catalog graph (.edit (.removeEdge index))

section Except

variable {ε α β : Type} {result : Except ε α} {refused : Prop}

theorem isOk_map (f : α → β) (result : Except ε α) : (result.map f).isOk = result.isOk := by
  cases result <;> rfl

theorem isOk_iff_of_ok {a : α} (made : result = .ok a) (allowed : ¬refused) :
    result.isOk = true ↔ ¬refused := by
  rw [made]
  exact ⟨fun _ => allowed, fun _ => rfl⟩

theorem isOk_iff_of_error {why : ε} (failed : result = .error why) (reason : refused) :
    result.isOk = true ↔ ¬refused := by
  rw [failed]
  exact ⟨nofun, fun allowed => absurd reason allowed⟩

/-- What begins with a lookup fails exactly if nothing is found. -/
theorem isOk_iff_of_lookup (found : Option β) (outcome : result.isOk = found.isSome)
    (reason : refused ↔ found = none) : result.isOk = true ↔ ¬refused := by
  rw [outcome, reason, Option.isSome_iff_ne_none]

end Except

namespace GraphEdit

variable {catalog : List Indicator} {graph : Graph}

/-- Only the start node is kept in every document. -/
theorem eq_removeNode_of_check {change : GraphEdit} {why : Failure}
    (forbidden : change.check = .error why) : change = .removeNode Graph.startId := by
  cases change with
  | removeNode id =>
      by_cases same : id = Graph.startId
      · rw [same]
      · rw [check, if_neg same] at forbidden
        cases forbidden
  | addIndicator _ | addLogic | addAction _ | connect _ _ _ | set _ | removeEdge _ | layout =>
      cases forbidden

/-- An edge is added exactly if both of its ends are there. -/
theorem isOk_apply_connect_iff (source target : String) (input : Option LogicInput) :
    ((connect source target input).apply catalog graph).isOk = true ↔
      graph.node? source ≠ none ∧ graph.node? target ≠ none := by
  cases missing : [source, target].find? (fun id => (graph.node? id).isNone) with
  | some id =>
      have gone : graph.node? id = none := by simpa using List.find?_some missing
      have either : id = source ∨ id = target := by
        simpa using List.mem_of_find?_eq_some missing
      simp only [apply, missing]
      refine iff_of_false Bool.false_ne_true fun there => ?_
      rcases either with rfl | rfl
      · exact there.1 gone
      · exact there.2 gone
  | none =>
      simp only [apply, missing]
      refine iff_of_true rfl ?_
      simpa using missing

/-- A field is set exactly if the node is there and the input is accepted. -/
theorem isOk_apply_set_iff (edit : Graph.Edit) :
    ((set edit).apply catalog graph).isOk = true ↔
      graph.node? edit.node ≠ none ∧ ∃ stored, acceptInput edit.field edit.typed = .ok stored := by
  cases found : graph.node? edit.node with
  | none =>
      simp only [apply, Graph.apply, found]
      exact iff_of_false Bool.false_ne_true fun there => there.1 rfl
  | some node =>
      cases accepted : acceptInput edit.field edit.typed with
      | error why =>
          simp only [apply, Graph.apply, found, accepted]
          refine iff_of_false Bool.false_ne_true ?_
          rintro ⟨-, stored, same⟩
          cases same
      | ok stored =>
          simp only [apply, Graph.apply, found, accepted]
          exact iff_of_true rfl ⟨Option.some_ne_none node, stored, rfl⟩

/-- **An edit that no document forbids can be made exactly if it is not refused.** -/
theorem isOk_apply_iff {change : GraphEdit} (check : change.check = .ok ()) :
    (change.apply catalog graph).isOk = true ↔
      ¬(GraphCommand.edit change).Refused catalog graph := by
  cases change with
  | addLogic | addAction _ | layout => exact isOk_iff_of_ok rfl nofun
  | addIndicator name =>
      refine isOk_iff_of_lookup (catalog.find? (sameIgnoringCase ·.id name)) ?_ ⟨?_, ?_⟩
      · rw [apply]
        cases catalog.find? (sameIgnoringCase ·.id name) <;> rfl
      · rintro ⟨⟩
        assumption
      · exact .unknownIndicator
  | connect source target input =>
      rw [isOk_apply_connect_iff]
      constructor
      · rintro ⟨begins, ends⟩ ⟨⟩
        next gone => exact gone.elim begins ends
      · intro allowed
        exact ⟨fun none => allowed (.unknownEnd (Or.inl none)),
          fun none => allowed (.unknownEnd (Or.inr none))⟩
  | set edit =>
      rw [isOk_apply_set_iff]
      constructor
      · rintro ⟨there, stored, accepted⟩ ⟨⟩
        · next missing => exact there missing
        · next rejected => cases accepted.symm.trans rejected
      · intro allowed
        refine ⟨fun none => allowed (.unknownNode none), ?_⟩
        cases accepted : acceptInput edit.field edit.typed with
        | ok stored => exact ⟨stored, rfl⟩
        | error why => exact absurd (.rejectedInput accepted) allowed
  | removeNode id =>
      refine isOk_iff_of_lookup (graph.node? id) ?_ ⟨?_, ?_⟩
      · rw [apply, Graph.removeNode]
        cases graph.node? id <;> rfl
      · -- The other reason to refuse it, that it is the start node, is met by the check.
        rintro ⟨⟩
        · cases check
        · assumption
      · exact .unknownRemoved
  | removeEdge index =>
      refine isOk_iff_of_lookup (graph.edges[index]?) ?_ ⟨?_, ?_⟩
      · rw [apply, Graph.removeEdge]
        cases graph.edges[index]? <;> rfl
      · rintro ⟨⟩
        next missing => exact List.getElem?_eq_none_iff.mpr missing
      · exact fun none => .unknownEdge (List.getElem?_eq_none_iff.mp none)

end GraphEdit

namespace GraphCommand

variable {catalog : List Indicator} {path : String} {text? : Option String} {graph : Graph}

/-- **A command on a file with a strategy fails exactly if it is refused.** -/
theorem isOk_result_iff (found : Graph.ofFile text? = .ok graph) (command : GraphCommand) :
    (command.result catalog path text?).isOk = true ↔ ¬command.Refused catalog graph := by
  cases command with
  | create name =>
      obtain ⟨text, rfl, -⟩ := Graph.ofFile_eq_ok.mp found
      exact isOk_iff_of_error rfl .fileExists
  | view | normalize =>
      rw [result, isOk_map, found]
      exact isOk_iff_of_ok rfl nofun
  | edit change =>
      rw [result, isOk_map]
      cases check : change.check with
      | error why =>
          obtain rfl := GraphEdit.eq_removeNode_of_check check
          exact isOk_iff_of_error (GraphEdit.result_of_refused check) .startNode
      | ok _ =>
          rw [GraphEdit.result_of_found check found, isOk_map]
          exact GraphEdit.isOk_apply_iff check

end GraphCommand

namespace GraphTurn

variable {path : String} {place : List String} {files : FileTree} {graph : Graph}

/-- A turn ends with exit code 0 or 1. -/
theorem exitCode (reaches : files.Reaches path place) (turn : GraphTurn) :
    (turn.carryOut path files).2 = some 0 ∨ (turn.carryOut path files).2 = some 1 := by
  rw [(carryOut_eq reaches turn).1]
  split
  · exact Or.inl rfl
  · exact Or.inr rfl

/-- **A turn on a file with a strategy ends with exit code 1 exactly if its command is refused.** -/
theorem exitCode_eq_one_iff (reaches : files.Reaches path place)
    (found : files.strategy? place = some graph) (turn : GraphTurn) :
    (turn.carryOut path files).2 = some 1 ↔ turn.command.Refused (turn.catalog files) graph := by
  have ok : (turn.result path place files).isOk = true ↔
      ¬turn.command.Refused (turn.catalog files) graph :=
    GraphCommand.isOk_result_iff (ofFile_of_strategy? found) turn.command
  rw [(carryOut_eq reaches turn).1]
  by_cases refused : turn.command.Refused (turn.catalog files) graph
  · rw [if_neg fun made => ok.mp made refused]
    exact iff_of_true rfl refused
  · rw [if_pos (ok.mpr refused)]
    exact iff_of_false nofun refused

/-- **A turn that fails leaves the files as they are.** -/
theorem after_of_failed (reaches : files.Reaches path place) {turn : GraphTurn}
    (failed : (turn.carryOut path files).2 = some 1) : turn.after path files = files := by
  obtain ⟨code, left⟩ := carryOut_eq reaches turn
  rw [left]
  cases result : turn.result path place files with
  | error why => rfl
  | ok written =>
      rw [code, result] at failed
      cases failed

end GraphTurn

end StrategyDesk
