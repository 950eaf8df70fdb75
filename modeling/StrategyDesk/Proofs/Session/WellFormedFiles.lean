import Mathlib.Data.String.Basic
import StrategyDesk.Proofs.Session.DanglingEdges
import StrategyDesk.Proofs.Session.Refusals
import StrategyDesk.Proofs.Strategy.WellFormed

/-!
# Files that stay well-formed

A file that was created with a strategy can be read after any commands on it, and what is read
begins with its only start node and has distinct ids.  This is so whatever the floats in the file
are: they need not come back as they were written, but they come back as finite numbers.

## Main Definitions

* `Graph.Storable` — a document that can be written to a file and is not nested too deeply
* `FileTree.Sound` — a file holds a well-formed strategy

## Main Statements

* `GraphTurn.strategy?_put_of_storable` — what is in the file where a document was written
* `GraphTurn.sound_after`, `GraphTurn.sound_afterAll` — a turn, and any turns, keep a file sound
* `GraphTurn.created_file_stays_wellFormed` — a created file stays well-formed, and commands that
  fail leave it as it is
-/

namespace StrategyDesk

/-! ## Documents that can be stored -/

/-- The document of a strategy, written at a moment, fits a file, of which the bytes are counted in
a word, and is not nested too deeply. -/
structure Graph.Storable (graph : Graph) (now : Timestamp) : Prop where
  moment : now.IsMoment
  fits : (Document.ofGraph graph now).text.utf8ByteSize < wordSize 64
  nesting : (toJson (Document.ofGraph graph now)).depth ≤ Json.depthLimit

/-- Every character takes a byte. -/
theorem length_le_utf8ByteSize (text : String) : text.toList.length ≤ text.utf8ByteSize := by
  rw [← String.utf8Len_toList]
  induction text.toList with
  | nil => exact Nat.zero_le _
  | cons c rest ih =>
      have byte := c.utf8Size_pos
      rw [List.length_cons, String.utf8Len_cons]
      omega

/-- A document has a text of at least as many bytes as there are nodes. -/
theorem Document.length_nodes_le_text (document : Document) :
    document.nodes.length ≤ document.text.utf8ByteSize := by
  let nodes : List Json := document.nodes.map toJson
  have field : ("nodes", Json.array nodes) ∈ Json.written
      [always "name" document.name, always "nodes" document.nodes, always "edges" document.edges,
        whenPresent "version" document.version, whenPresent "exportedAt" document.exportedAt] :=
    List.mem_filterMap.mpr ⟨always "nodes" document.nodes, by simp, rfl⟩
  calc document.nodes.length = nodes.length := (List.length_map _).symm
    _ ≤ ((Json.array nodes).prettyAt 1).toList.length := Json.length_le_prettyAt_array 1 nodes
    _ ≤ document.text.toList.length := Json.length_prettyAt_le_object 0 field
    _ ≤ document.text.utf8ByteSize := length_le_utf8ByteSize _

theorem Graph.Storable.few {graph : Graph} {now : Timestamp} (storable : graph.Storable now) :
    graph.nodes.length < wordSize 64 := by
  have nodes := (Document.ofGraph graph now).length_nodes_le_text
  have same : (Document.ofGraph graph now).nodes.length = graph.nodes.length := List.length_map _
  have fits := storable.fits
  omega

/-- The file at a place holds a strategy that begins with its only start node, and of which the
nodes are at places of the canvas. -/
def FileTree.Sound (files : FileTree) (place : List String) : Prop :=
  ∃ graph, files.strategy? place = some graph ∧ graph.WellFormed ∧ graph.IsPlaced

namespace GraphTurn

variable {turn : GraphTurn} {turns : List GraphTurn} {path : String} {place : List String}
variable {files : FileTree} {graph : Graph}

/-- Every document that is written in turns can be stored. -/
def Storable (path : String) (place : List String) : FileTree → List GraphTurn → Prop
  | _, [] => True
  | files, turn :: rest =>
    (∀ graph, turn.result path place files = .ok (some graph) → graph.Storable turn.around.time) ∧
      Storable path place (turn.after path files) rest

/-- **Where the document of a strategy was written, the file holds the strategy reread**, whatever
its floats. -/
theorem strategy?_put_of_storable (reachable : Graph.Reachable graph) (placed : graph.IsPlaced)
    {now : Timestamp} (storable : graph.Storable now) :
    (files.put place (Document.ofGraph graph now).text).strategy? place =
      some graph.reread.reimported := by
  have read :=
    Graph.parse_ofGraph_reread reachable.unpacked placed storable.moment storable.nesting
  unfold FileTree.strategy?
  rw [FileTree.text?_put, Graph.ofFile_eq_ok.mpr ⟨_, rfl, read⟩]
  rfl

/-- A turn that writes a well-formed strategy leaves a sound file. -/
theorem sound_of_written (reaches : files.Reaches path place)
    (result : turn.result path place files = .ok (some graph))
    (storable : graph.Storable turn.around.time) (wellFormed : graph.WellFormed)
    (placed : graph.IsPlaced) : (turn.after path files).Sound place := by
  have reachable := GraphCommand.reachable_of_result result
  rw [(carryOut_eq reaches turn).2, result]
  exact ⟨_, strategy?_put_of_storable reachable placed storable, wellFormed.reimported,
    placed.reimported⟩

/-- **A turn keeps a file sound.** -/
theorem sound_after (reaches : files.Reaches path place) (sound : files.Sound place)
    (storable : ∀ graph, turn.result path place files = .ok (some graph) →
      graph.Storable turn.around.time) : (turn.after path files).Sound place := by
  have left := (carryOut_eq reaches turn).2
  cases result : turn.result path place files with
  | error why =>
      rw [left, result]
      exact sound
  | ok written =>
      cases written with
      | none =>
          rw [left, result]
          exact sound
      | some after =>
          obtain ⟨graph, found, wellFormed, placed⟩ := sound
          have read := ofFile_of_strategy? found
          rcases GraphCommand.of_result result with ⟨name, -, absent, -⟩ |
            ⟨change, operation, before, command, check, read', means, grounded, rfl⟩
          · -- A new strategy is written only where there is no file.
            rw [absent] at read
            cases read
          · obtain rfl : graph = before := Except.ok.inj (read.symm.trans read')
            have performed := Graph.performed graph operation
            -- The command checks that it does not remove the start node, before it reads the file.
            have spares : operation ≠ .removeNode Graph.startId := by
              rintro rfl
              obtain rfl := GraphEdit.eq_removeNode means
              cases check
            have stored := storable _ result
            exact sound_of_written reaches result stored (performed.wellFormed spares wellFormed)
              (performed.isPlaced stored.few placed)

/-- **Turns keep a file sound.** -/
theorem sound_afterAll (turns : List GraphTurn) : ∀ {files : FileTree},
    files.Reaches path place → files.Sound place → Storable path place files turns →
    (afterAll turns path files).Sound place := by
  induction turns with
  | nil => exact fun _ sound _ => sound
  | cons turn turns ih =>
      intro files reaches sound storable
      exact ih (reaches_after reaches turn) (sound_after reaches sound storable.1) storable.2

/-- A turn that creates a file leaves it sound. -/
theorem sound_after_create (reaches : files.Reaches path place) {name : Option String}
    (creates : turn.command = .create name) (succeeds : (turn.carryOut path files).2 = some 0)
    (storable : ∀ graph, turn.result path place files = .ok (some graph) →
      graph.Storable turn.around.time) : (turn.after path files).Sound place := by
  have result : turn.result path place files = .ok (some (GraphCommand.created name)) := by
    have code := (carryOut_eq reaches turn).1
    rw [succeeds] at code
    unfold GraphTurn.result at code ⊢
    rw [creates] at code ⊢
    cases there : files.text? place with
    | none => rfl
    | some text =>
        rw [there] at code
        cases code
  have created : (GraphCommand.created name).WellFormed ∧ (GraphCommand.created name).IsPlaced := by
    cases name with
    | none => exact ⟨Graph.wellFormed_initial, Graph.isPlaced_initial⟩
    | some name => exact ⟨Graph.wellFormed_initial.of_outline rfl, Graph.isPlaced_initial⟩
  exact sound_of_written reaches result (storable _ result) created.1 created.2

/-- A turn that leads an edge from one node to another writes the strategy with the edge, if it does
not fail; both ends are nodes then. -/
theorem after_of_connect (reaches : files.Reaches path place)
    (found : files.strategy? place = some graph) {source target : String}
    {input : Option LogicInput} (command : turn.command = .edit (.connect source target input))
    (succeeds : (turn.carryOut path files).2 = some 0) :
    graph.node? source ≠ none ∧ graph.node? target ≠ none ∧
      ∃ edge : Edge, edge.source = source ∧ edge.target = target ∧
        turn.after path files =
          files.put place (Document.ofGraph (graph.connect edge) turn.around.time).text := by
  have allowed : ¬turn.command.Refused (turn.catalog files) graph := by
    intro refused
    rw [(exitCode_eq_one_iff reaches found turn).mpr refused] at succeeds
    cases succeeds
  rw [command] at allowed
  have begins : graph.node? source ≠ none := fun none => allowed (.unknownEnd (Or.inl none))
  have ends : graph.node? target ≠ none := fun none => allowed (.unknownEnd (Or.inr none))
  let edge := (input.map (Edge.between source target).into).getD (.between source target)
  have applied : (GraphEdit.connect source target input).apply (turn.catalog files) graph =
      .ok (graph.connect edge, none) := by
    have there : [source, target].find? (fun id => (graph.node? id).isNone) = none := by
      simpa [List.find?_eq_none] using And.intro begins ends
    simp only [GraphEdit.apply, there]
    rfl
  obtain ⟨source', target'⟩ := Edge.ends_getD_into (.between source target) input
  refine ⟨begins, ends, edge, source', target', ?_⟩
  rw [(carryOut_eq reaches turn).2, result_of_applied found command rfl applied]
  rfl

/-- **A created file stays well-formed, and commands that fail leave it as it is.**  Whatever turns
follow the one that created it, as long as the documents that they write can be stored, a strategy
is read from the file that begins with its only start node and has distinct ids.  The next turn ends
with exit code 0 or 1.  It ends with 1 exactly if its command names something that is not there, has
an input that is not accepted, would remove the start node or create the file again, and then it
leaves the files as they are.  If it leads an edge, both ends of the edge are nodes at that moment.
-/
theorem created_file_stays_wellFormed (reaches : files.Reaches path place) {creation : GraphTurn}
    {name : Option String} (creates : creation.command = .create name)
    (succeeds : (creation.carryOut path files).2 = some 0) (turns : List GraphTurn)
    (storable : Storable path place files (creation :: turns)) :
    let held := afterAll (creation :: turns) path files
    ∃ graph, held.strategy? place = some graph ∧ graph.WellFormed ∧
      ∀ next : GraphTurn,
        let code := (next.carryOut path held).2
        (code = some 0 ∨ code = some 1) ∧
        (code = some 1 ↔ next.command.Refused (next.catalog held) graph) ∧
        (code = some 1 → next.after path held = held) ∧
        ∀ source target input, next.command = .edit (.connect source target input) →
          code = some 0 →
          graph.node? source ≠ none ∧ graph.node? target ≠ none ∧
            ∃ edge : Edge, edge.source = source ∧ edge.target = target ∧
              next.after path held =
                held.put place (Document.ofGraph (graph.connect edge) next.around.time).text := by
  intro held
  have created := sound_after_create reaches creates succeeds storable.1
  have reaches' := reaches_after reaches creation
  obtain ⟨graph, found, wellFormed, -⟩ := sound_afterAll turns reaches' created storable.2
  have reaches'' : held.Reaches path place := reaches_afterAll reaches (creation :: turns)
  refine ⟨graph, found, wellFormed, fun next => ⟨exitCode reaches'' next,
    exitCode_eq_one_iff reaches'' found next, after_of_failed reaches'', ?_⟩⟩
  intro source target input command succeeds
  exact after_of_connect reaches'' found command succeeds

/-- A file is created and gets a logic node; both documents can be stored. -/
theorem creation_run :
    ((offline (.create none)).carryOut "s.json" (.ofFiles [])).2 = some 0 ∧
      Storable "s.json" ["s.json"] (.ofFiles [])
        [offline (.create none), offline (.edit .addLogic)] := by
  have moment : (⟨0, 0⟩ : Timestamp).IsMoment := ⟨by decide, by decide, by decide⟩
  have created : (offline (.create none)).result "s.json" ["s.json"] (.ofFiles []) =
      .ok (some .initial) := rfl
  have storable : Graph.initial.Storable ⟨0, 0⟩ := ⟨moment, by decide +kernel, by decide +kernel⟩
  have storable' : Graph.initial.addLogic.1.Storable ⟨0, 0⟩ :=
    ⟨moment, by decide +kernel, by decide +kernel⟩
  obtain ⟨code, left⟩ := carryOut_eq reaches_offline (offline (.create none))
  rw [created] at code left
  have found : ((offline (.create none)).after "s.json" (.ofFiles [])).strategy? ["s.json"] =
      some .initial := by
    have back : Graph.initial.reread.reimported = .initial := by decide +kernel
    have read := @strategy?_put_of_storable ["s.json"] (.ofFiles []) _ .initial
      Graph.isPlaced_initial _ storable
    rw [back] at read
    exact left.symm ▸ read
  have command : (offline (.edit .addLogic)).command = .edit .addLogic := rfl
  have added : (offline (.edit .addLogic)).result "s.json" ["s.json"]
      ((offline (.create none)).after "s.json" (.ofFiles [])) =
        .ok (some Graph.initial.addLogic.1) := result_of_applied found command rfl rfl
  refine ⟨code, fun graph same => ?_, fun graph same => ?_, trivial⟩
  · rw [created] at same
    cases same
    exact storable
  · rw [added] at same
    cases same
    exact storable'

/-- In a created file with a logic node, the start node cannot be removed. -/
theorem created_file_stays_wellFormed_withLogic :
    let files := FileTree.ofFiles []
    let creation := offline (.create none)
    let turns := [offline (.edit .addLogic)]
    let held := afterAll (creation :: turns) "s.json" files
    let removal := offline (.edit (.removeNode "start"))
    (files.Reaches "s.json" ["s.json"] ∧ (creation.carryOut "s.json" files).2 = some 0 ∧
      Storable "s.json" ["s.json"] files (creation :: turns)) ∧
    ∃ graph, held.strategy? ["s.json"] = some graph ∧ graph.WellFormed ∧
      (removal.carryOut "s.json" held).2 = some 1 ∧ removal.after "s.json" held = held := by
  intro files creation turns held removal
  obtain ⟨succeeds, storable⟩ := creation_run
  obtain ⟨graph, found, wellFormed, next⟩ :=
    created_file_stays_wellFormed reaches_offline rfl succeeds turns storable
  obtain ⟨-, refused, fails, -⟩ := next removal
  have code := refused.mpr .startNode
  exact ⟨⟨reaches_offline, succeeds, storable⟩, graph, found, wellFormed, code, fails code⟩

end GraphTurn

end StrategyDesk
