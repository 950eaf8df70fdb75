import StrategyDesk.Proofs.Session.GraphFiles
import StrategyDesk.Proofs.Strategy.RoundTrip

/-!
# Turns on a document

Commands that are carried out one after the other on the strategy document in a file.

## Main Definitions

* `GraphTurn`, `GraphTurn.carryOut` — a command, and the session and the trial that it is carried
  out in
* `GraphTurn.afterAll` — the files after turns
* `GraphTurn.Durable` — the documents that are written can be read back
* `GraphTurn.Does` — what a turn can do to the strategy in the file

## Main Statements

* `GraphTurn.carryOut_eq` — the exit code of a turn and the files after it
* `GraphTurn.does` — a turn does one of the things that `GraphTurn.Does` lists
-/

namespace StrategyDesk

/-- The document of a strategy, written at a moment, can be read back: so can its floats, and it is
not nested too deeply. -/
structure Graph.Durable (graph : Graph) (now : Timestamp) : Prop where
  moment : now.IsMoment
  numbers : ∀ x ∈ graph.floats, x.ReadsBack
  nesting : (toJson (Document.ofGraph graph now)).depth ≤ Json.depthLimit

/-- The strategy in the file at a place. -/
def FileTree.strategy? (files : FileTree) (place : List String) : Option Graph :=
  (Graph.ofFile (files.text? place)).toOption

/-- A command on a document, and the session and the trial in which it is carried out. -/
structure GraphTurn where
  command : GraphCommand
  desk : Desk
  around : Trial

namespace GraphTurn

/-- The trial with the files as they are when the turn comes. -/
def trial (turn : GraphTurn) (files : FileTree) : Trial := { turn.around with files }

/-- The trial after a turn with the file at a path, and the exit code. -/
def carryOut (turn : GraphTurn) (path : String) (files : FileTree) : Trial × Option Nat :=
  (turn.trial files).carryOut (turn.desk.session (.graph path turn.command))

/-- The files after a turn. -/
def after (turn : GraphTurn) (path : String) (files : FileTree) : FileTree :=
  (turn.carryOut path files).1.files

/-- The files after turns. -/
def afterAll (turns : List GraphTurn) (path : String) (files : FileTree) : FileTree :=
  turns.foldl (fun files turn => turn.after path files) files

/-- The indicators that the turn finds. -/
def catalog (turn : GraphTurn) (files : FileTree) : List Indicator :=
  (turn.trial files).catalog turn.desk.urls

/-- What a turn comes to. -/
def result (turn : GraphTurn) (path : String) (place : List String) (files : FileTree) :
    Except Failure (Option Graph) :=
  turn.command.result (turn.catalog files) path (files.text? place)

/-- Every document that is written in turns can be read back. -/
def Durable (path : String) (place : List String) : FileTree → List GraphTurn → Prop
  | _, [] => True
  | files, turn :: rest =>
    (∀ graph, turn.result path place files = .ok (some graph) → graph.Durable turn.around.time) ∧
      Durable path place (turn.after path files) rest

variable {turn : GraphTurn} {path : String} {place : List String} {files : FileTree}
variable {graph : Graph}

/-- **A turn comes to its result**, with exit code 0 unless that is a failure. -/
theorem carryOut_eq (reaches : files.Reaches path place) (turn : GraphTurn) :
    (turn.carryOut path files).2 = some (if (turn.result path place files).isOk then 0 else 1) ∧
      turn.after path files = (turn.trial files).left place (turn.result path place files) := by
  have comesTo : (turn.trial files).ComesTo place (turn.desk.carryOut (.graph path turn.command))
      (turn.result path place files) := Trial.comesTo_graphFile reaches _ _ _
  obtain ⟨later, carried, left⟩ := comesTo.carryOut_session
  have carried' : turn.carryOut path files = _ := carried
  unfold after
  rw [carried']
  exact ⟨rfl, left⟩

/-- A path still leads to the place of the file after a turn. -/
theorem reaches_after (reaches : files.Reaches path place) (turn : GraphTurn) :
    (turn.after path files).Reaches path place := by
  rw [(carryOut_eq reaches turn).2]
  unfold Trial.left
  split
  · exact reaches.put _
  · exact reaches
  · exact reaches

theorem reaches_afterAll (reaches : files.Reaches path place) (turns : List GraphTurn) :
    (afterAll turns path files).Reaches path place := by
  induction turns generalizing files with
  | nil => exact reaches
  | cons turn turns ih => exact ih (reaches_after reaches turn)

theorem ofFile_of_strategy? (found : files.strategy? place = some graph) :
    Graph.ofFile (files.text? place) = .ok graph := by
  unfold FileTree.strategy? at found
  cases read : Graph.ofFile (files.text? place) with
  | error why =>
      rw [read] at found
      cases found
  | ok held =>
      rw [read] at found
      cases found
      rfl

/-- A strategy that can be read back is the one in the file where its document was written. -/
theorem strategy?_put (reachable : Graph.Reachable graph) {now : Timestamp}
    (durable : graph.Durable now) :
    (files.put place (Document.ofGraph graph now).text).strategy? place =
      some graph.reimported := by
  have read := Graph.parse_ofGraph reachable.unpacked durable.moment durable.numbers durable.nesting
  unfold FileTree.strategy?
  rw [FileTree.text?_put, Graph.ofFile_eq_ok.mpr ⟨_, rfl, read⟩]
  rfl

/-- The strategy that a turn writes is the one in the file after it. -/
theorem strategy?_after (reaches : files.Reaches path place)
    (result : turn.result path place files = .ok (some graph))
    (durable : graph.Durable turn.around.time) :
    (turn.after path files).strategy? place = some graph.reimported := by
  rw [(carryOut_eq reaches turn).2, result]
  exact strategy?_put (GraphCommand.reachable_of_result result) durable

/-- An edit that can be made writes the strategy after it. -/
theorem result_of_applied (found : files.strategy? place = some graph) {change : GraphEdit}
    (command : turn.command = .edit change) (check : change.check = .ok ()) {after : Graph}
    {remark : Option String}
    (applied : change.apply (turn.catalog files) graph = .ok (after, remark)) :
    turn.result path place files = .ok (some after) := by
  rw [result, command]
  show (change.result _ _).map some = _
  rw [GraphEdit.result_of_found check (ofFile_of_strategy? found), applied]
  rfl

/-- What a turn can do to the strategy in the file. -/
inductive Does (turn : GraphTurn) (catalog : List Indicator) : Option Graph → Option Graph → Prop
  | created {name : Option String} (command : turn.command = .create name) :
      Does turn catalog none (some (GraphCommand.created name).reimported)
  | edited {change : GraphEdit} {operation : Graph.Operation} {graph : Graph}
      (command : turn.command = .edit change) (means : change.operation? catalog = some operation)
      (grounded : operation.IsGrounded graph) :
      Does turn catalog (some graph) (some (graph.perform operation).1.reimported)
  | kept {strategy? : Option Graph} : Does turn catalog strategy? strategy?

/-- **A turn does one of the things that `Does` lists**, if the document that it writes can be read
back. -/
theorem does (reaches : files.Reaches path place)
    (durable : ∀ graph, turn.result path place files = .ok (some graph) →
      graph.Durable turn.around.time) :
    turn.Does (turn.catalog files) (files.strategy? place)
      ((turn.after path files).strategy? place) := by
  have left := (carryOut_eq reaches turn).2
  cases result : turn.result path place files with
  | error why =>
      rw [left, result]
      exact .kept
  | ok written =>
      cases written with
      | none =>
          rw [left, result]
          exact .kept
      | some graph =>
          -- What comes back of the written document is the strategy, reimported.
          rw [strategy?_after reaches result (durable graph result)]
          rcases GraphCommand.of_result result with ⟨name, command, absent, rfl⟩ |
            ⟨change, operation, found, command, -, read, means, grounded, rfl⟩
          · have none : files.strategy? place = none := by
              unfold FileTree.strategy?
              rw [absent]
              rfl
            rw [none]
            exact .created command
          · have before : files.strategy? place = some found := by
              unfold FileTree.strategy?
              rw [read]
              rfl
            rw [before]
            exact .edited command means grounded

end GraphTurn

end StrategyDesk
