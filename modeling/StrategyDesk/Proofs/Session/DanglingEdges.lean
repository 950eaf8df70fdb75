import StrategyDesk.Proofs.Session.GraphTurns
import StrategyDesk.Proofs.Strategy.NodeIds

/-!
# Edges that outlive their nodes

A node is removed without its edges.  As a document does not hold the counter of its strategy, ids
are counted from the beginning each time that the document is read, and a new node may get the id of
one that was removed, together with the edges that still name it.

## Main Definitions

* `Edge.Names`, `Graph.Dangles` — an edge names an id, and no node has the id
* `GraphTurn.LeftBehind` — an edge that named a node when that was removed

## Main Statements

* `Graph.Dangles.of_performed` — an operation leaves an edge dangling only if it removes a node
* `GraphTurn.dangles_afterAll` — where an edge that dangles comes from, over all turns
* `GraphTurn.new_node_inherits_iff` — which edges name the id of a new node
-/

namespace StrategyDesk

/-- An edge begins or ends at an id. -/
def Edge.Names (edge : Edge) (id : String) : Prop := edge.source = id ∨ edge.target = id

namespace Graph

/-- An edge of a graph names an id that no node has. -/
structure Dangles (graph : Graph) (edge : Edge) (id : String) : Prop where
  inGraph : edge ∈ graph.edges
  named : edge.Names id
  missing : graph.node? id = none

variable {graph after : Graph} {edge : Edge} {id : String}

theorem node?_eq_none_iff : graph.node? id = none ↔ id ∉ graph.nodes.map Node.id := by
  simp [node?]

/-- **An operation leaves an edge dangling only if it removes the node that the edge names**, as
long as it names only what is there itself. -/
theorem Dangles.of_performed {operation : Operation} {issued : Option String}
    (performed : Performed graph operation after issued) (grounded : operation.IsGrounded graph)
    (dangles : after.Dangles edge id) :
    graph.Dangles edge id ∨
      operation = .removeNode id ∧ edge ∈ graph.edges ∧ edge.Names id ∧ graph.node? id ≠ none := by
  obtain ⟨inGraph, named, missing⟩ := dangles
  have absent := node?_eq_none_iff.mp missing
  cases performed with
  | renamed _ | kept _ => exact Or.inl ⟨inGraph, named, missing⟩
  | disconnected index => exact Or.inl ⟨List.mem_of_mem_eraseIdx inGraph, named, missing⟩
  | laidOut =>
      rw [@map_autoLayout _ Node.id fun _ _ => rfl] at absent
      exact Or.inl ⟨inGraph, named, node?_eq_none_iff.mpr absent⟩
  | @applied edit stored _ =>
      have keeps (node : Node) : (writeField node edit.field stored).id = node.id := rfl
      rw [map_updateFirst keeps] at absent
      exact Or.inl ⟨inGraph, named, node?_eq_none_iff.mpr absent⟩
  | @added _ stem make _ =>
      refine Or.inl ⟨inGraph, named, node?_eq_none_iff.mpr fun member => absent ?_⟩
      show id ∈ (graph.nodes ++ [make _]).map Node.id
      rw [List.map_append]
      exact List.mem_append_left _ member
  | connected new =>
      rcases List.mem_append.mp inGraph with there | added
      · exact Or.inl ⟨there, named, missing⟩
      · -- A new edge names only nodes that are there.
        obtain rfl := List.mem_singleton.mp added
        obtain ⟨source, target⟩ := grounded
        rcases named with rfl | rfl
        · exact absurd missing source
        · exact absurd missing target
  | removed gone =>
      by_cases same : gone = id
      · subst same
        exact Or.inr ⟨rfl, inGraph, named, grounded⟩
      · refine Or.inl ⟨inGraph, named, node?_eq_none_iff.mpr fun member => absent ?_⟩
        obtain ⟨node, there, rfl⟩ := List.mem_map.mp member
        have other : ¬(node.id == gone) = true := fun equal => same (beq_iff_eq.mp equal).symm
        have kept : node ∈ graph.nodes.eraseP (·.id == gone) :=
          (List.mem_eraseP_of_neg (p := fun node => node.id == gone) other).mpr there
        exact List.mem_map_of_mem kept

/-- What comes back has the same edges dangling. -/
theorem dangles_reimported : graph.reimported.Dangles edge id ↔ graph.Dangles edge id := by
  have ids : graph.reimported.nodes.map Node.id = graph.nodes.map Node.id := by
    show (graph.nodes.map Node.withoutCallback).map Node.id = _
    rw [List.map_map]
    rfl
  have missing : graph.reimported.node? id = none ↔ graph.node? id = none := by
    rw [node?_eq_none_iff, node?_eq_none_iff, ids]
  exact ⟨fun dangles => ⟨dangles.inGraph, dangles.named, missing.mp dangles.missing⟩,
    fun dangles => ⟨dangles.inGraph, dangles.named, missing.mpr dangles.missing⟩⟩

end Graph

namespace GraphTurn

variable {turn : GraphTurn} {turns : List GraphTurn} {path : String} {place : List String}
variable {files : FileTree} {graph : Graph} {edge : Edge} {id : String}

/-- In one of the turns a node was removed that an edge of the strategy named. -/
def LeftBehind (path : String) (place : List String) (files : FileTree) (turns : List GraphTurn)
    (edge : Edge) (id : String) : Prop :=
  ∃ earlier turn later found, turns = earlier ++ turn :: later ∧
    turn.command = .edit (.removeNode id) ∧
    (afterAll earlier path files).strategy? place = some found ∧
    edge ∈ found.edges ∧ edge.Names id ∧ found.node? id ≠ none

/-- What was left behind in later turns was left behind in all of them. -/
theorem LeftBehind.cons (left : LeftBehind path place (turn.after path files) turns edge id) :
    LeftBehind path place files (turn :: turns) edge id := by
  obtain ⟨earlier, gone, later, found, split, rest⟩ := left
  exact ⟨turn :: earlier, gone, later, found, congrArg (turn :: ·) split, rest⟩

/-- An edge that dangles after a turn did so before, or the turn removed the node that it names. -/
theorem dangles_after (reaches : files.Reaches path place)
    (durable : ∀ graph, turn.result path place files = .ok (some graph) →
      graph.Durable turn.around.time)
    (found : (turn.after path files).strategy? place = some graph)
    (dangles : graph.Dangles edge id) :
    (∃ before, files.strategy? place = some before ∧ before.Dangles edge id) ∨
      LeftBehind path place files [turn] edge id := by
  have does := turn.does reaches durable
  rw [found] at does
  generalize earlier : files.strategy? place = before at does
  cases does with
  | kept => exact Or.inl ⟨graph, rfl, dangles⟩
  | created _ =>
      have edges : ∀ name, (GraphCommand.created name).edges = [] := by
        intro name
        cases name <;> rfl
      have inGraph := (Graph.dangles_reimported.mp dangles).inGraph
      rw [edges] at inGraph
      cases inGraph
  | @edited change operation before command means grounded =>
      rcases (Graph.dangles_reimported.mp dangles).of_performed
        (Graph.performed before operation) grounded with there | ⟨rfl, inGraph, named, present⟩
      · exact Or.inl ⟨before, rfl, there⟩
      · obtain rfl := GraphEdit.eq_removeNode means
        exact Or.inr ⟨[], turn, [], before, rfl, command, earlier, inGraph, named, present⟩

/-- **An edge that dangles after turns did so before them, or was left behind in one of them.** -/
theorem dangles_afterAll (turns : List GraphTurn) : ∀ {files : FileTree},
    files.Reaches path place → Durable path place files turns →
    (afterAll turns path files).strategy? place = some graph → graph.Dangles edge id →
    (∃ first, files.strategy? place = some first ∧ first.Dangles edge id) ∨
      LeftBehind path place files turns edge id := by
  induction turns with
  | nil => exact fun _ _ found dangles => Or.inl ⟨graph, found, dangles⟩
  | cons turn turns ih =>
      intro files reaches durable found dangles
      rcases ih (reaches_after reaches turn) durable.2 found dangles with
        ⟨next, there, still⟩ | left
      · rcases dangles_after reaches durable.1 there still with before | left
        · exact Or.inl before
        · obtain ⟨earlier, gone, later, found, split, rest⟩ := left
          refine Or.inr ⟨earlier, gone, later ++ turns, found, ?_, rest⟩
          rw [← List.singleton_append, split]
          simp
      · exact Or.inr left.cons

/-! ## New nodes -/

/-- What a turn adds to a strategy: the text before the number of the id, and the node with an
id. -/
def newNode? (turn : GraphTurn) (files : FileTree) (graph : Graph) :
    Option (String × (String → Node)) :=
  match turn.command with
  | .edit change => (change.operation? (turn.catalog files)).bind (·.newNode? graph.nodes.length)
  | .create _ | .view | .normalize => none

/-- Ids are counted from the beginning in a strategy that was read. -/
theorem counter_of_strategy? (found : files.strategy? place = some graph) : graph.counter = 0 := by
  obtain ⟨text, -, parsed⟩ := Graph.ofFile_eq_ok.mp (ofFile_of_strategy? found)
  obtain ⟨document, -, rfl⟩ := Graph.Document.of_parse parsed
  rfl

/-- A turn that adds a node writes the document with the node. -/
theorem after_of_newNode? (reaches : files.Reaches path place)
    (found : files.strategy? place = some graph) {stem : String} {make : String → Node}
    (adds : turn.newNode? files graph = some (stem, make)) :
    turn.after path files =
      files.put place (Document.ofGraph (graph.addNode stem make).1 turn.around.time).text := by
  unfold newNode? at adds
  split at adds
  · next change command =>
      obtain ⟨operation, means, adds⟩ := Option.bind_eq_some_iff.mp adds
      obtain ⟨check, remark, applied⟩ := GraphEdit.apply_of_newNode? means adds
      rw [(carryOut_eq reaches turn).2, result_of_applied found command check applied]
      rfl
  all_goals cases adds

/-- **A new node inherits the edges that were left behind under its id.** -/
theorem new_node_inherits_iff (reaches : files.Reaches path place) (turns : List GraphTurn)
    (durable : Durable path place files turns)
    (found : (afterAll turns path files).strategy? place = some graph)
    {turn : GraphTurn} {stem : String} {make : String → Node}
    (adds : turn.newNode? (afterAll turns path files) graph = some (stem, make)) :
    ∃ number,
      (0 < number ∧ graph.node? (Graph.candidate stem number) = none ∧
        ∀ smaller, 0 < smaller → smaller < number →
          graph.node? (Graph.candidate stem smaller) ≠ none) ∧
      turn.after path (afterAll turns path files) =
        (afterAll turns path files).put place (Document.ofGraph
          { graph with
            nodes := graph.nodes ++ [make (Graph.candidate stem number)], counter := number }
          turn.around.time).text ∧
      ∀ edge ∈ graph.edges, edge.Names (Graph.candidate stem number) ↔
        LeftBehind path place files turns edge (Graph.candidate stem number) ∨
          ∃ first, files.strategy? place = some first ∧
            first.Dangles edge (Graph.candidate stem number) := by
  obtain ⟨rounds, -, search⟩ := Graph.search_freshNumber graph stem
  rw [counter_of_strategy? found] at search
  obtain ⟨positive, free⟩ := search.fresh
  refine ⟨graph.freshNumber stem, ⟨positive, free, search.least⟩,
    after_of_newNode? (reaches_afterAll reaches turns) found adds, fun edge inGraph => ⟨?_, ?_⟩⟩
  · intro named
    exact (dangles_afterAll turns reaches durable found ⟨inGraph, named, free⟩).symm
  · -- Each of the two names the id of the new node already.
    rintro (⟨_, _, _, _, _, _, _, _, named, _⟩ | ⟨first, -, dangles⟩)
    · exact named
    · exact dangles.named

/-- A turn in a session to which no service replies. -/
def offline (command : GraphCommand) : GraphTurn where
  command := command
  desk := ⟨{}, ⟨⟨false, "", "", .ipv4 0, none, [""], none, none⟩,
    ⟨false, "", "", .ipv4 0, none, [""], none, none⟩⟩, .plain⟩
  around := ⟨.ofFiles [], fun _ => none, [], [], none, [], "", "", ⟨0, 0⟩⟩

/-- A strategy whose logic node is removed after it was connected. -/
def removal : List GraphTurn :=
  [offline (.create none), offline (.edit .addLogic),
    offline (.edit (.connect "start" "logic-1" none)), offline (.edit (.removeNode "logic-1"))]

/-- What the removal leaves in the file. -/
def leftover : Graph := ⟨"My Strategy", [Graph.startNode], [.between "start" "logic-1"], 0⟩

/-- A path to a file that is yet to be written. -/
theorem reaches_offline : (FileTree.ofFiles []).Reaches "s.json" ["s.json"] :=
  ⟨by decide, by decide, by decide⟩

/-- A turn that writes a strategy that can be read back, and what is in the file then. -/
theorem written (reaches : files.Reaches path place)
    (result : turn.result path place files = .ok (some graph))
    (durable : graph.Durable turn.around.time) :
    (turn.after path files).Reaches path place ∧
      (turn.after path files).strategy? place = some graph.reimported ∧
      ∀ graph, turn.result path place files = .ok (some graph) →
        graph.Durable turn.around.time := by
  refine ⟨reaches_after reaches turn, strategy?_after reaches result durable, fun other same => ?_⟩
  rw [result] at same
  cases same
  exact durable

/-- An edit that can be made, in a session to which no service replies. -/
theorem edited (reaches : files.Reaches path place) (found : files.strategy? place = some graph)
    {change : GraphEdit} (check : change.check = .ok ()) {after : Graph} {remark : Option String}
    (applied : ∀ catalog, change.apply catalog graph = .ok (after, remark))
    (durable : after.Durable ⟨0, 0⟩) :
    let turn := offline (.edit change)
    (turn.after path files).Reaches path place ∧
      (turn.after path files).strategy? place = some after.reimported ∧
      ∀ graph, turn.result path place files = .ok (some graph) → graph.Durable ⟨0, 0⟩ :=
  have command : (offline (.edit change)).command = .edit change := rfl
  written reaches (result_of_applied found command check (applied _)) durable

/-- The removal leaves the edge, and every document on the way can be read back. -/
theorem removal_run :
    Durable "s.json" ["s.json"] (.ofFiles []) removal ∧
      (afterAll removal "s.json" (.ofFiles [])).strategy? ["s.json"] = some leftover := by
  have durable {graph : Graph} (numbers : ∀ x ∈ graph.floats, x.ReadsBack)
      (nesting : (toJson (Document.ofGraph graph ⟨0, 0⟩)).depth ≤ Json.depthLimit) :
      graph.Durable ⟨0, 0⟩ := ⟨⟨by decide, by decide, by decide⟩, numbers, nesting⟩
  -- The new strategy.
  have created : (offline (.create none)).result "s.json" ["s.json"] (.ofFiles []) =
      .ok (some .initial) := rfl
  obtain ⟨there₁, found₁, durable₁⟩ :=
    written reaches_offline created (durable (by decide +kernel) (by decide +kernel))
  have back₁ : Graph.initial.reimported = .initial := by decide +kernel
  rw [back₁] at found₁
  -- The logic node.
  have adds (catalog : List Indicator) : GraphEdit.addLogic.apply catalog .initial =
      .ok (Graph.initial.addLogic.1, some s!"Added {Graph.initial.addLogic.2}") := rfl
  obtain ⟨there₂, found₂, durable₂⟩ :=
    edited there₁ found₁ rfl adds (durable (by decide +kernel) (by decide +kernel))
  let drawn : Graph := ⟨"My Strategy", [Graph.startNode, .newLogic "logic-1"], [], 0⟩
  have back₂ : Graph.initial.addLogic.1.reimported = drawn := by decide +kernel
  rw [back₂] at found₂
  -- The edge.
  let connected : Graph := { drawn with edges := [.between "start" "logic-1"] }
  have connects (catalog : List Indicator) :
      (GraphEdit.connect "start" "logic-1" none).apply catalog drawn = .ok (connected, none) := by
    have ends : ["start", "logic-1"].find? (fun id => (drawn.node? id).isNone) = none := by
      decide +kernel
    simp only [GraphEdit.apply, ends]
    rfl
  obtain ⟨there₃, found₃, durable₃⟩ :=
    edited there₂ found₂ rfl connects (durable (by decide +kernel) (by decide +kernel))
  have back₃ : connected.reimported = connected := by decide +kernel
  rw [back₃] at found₃
  -- What is left without the node.
  have removes (catalog : List Indicator) :
      (GraphEdit.removeNode "logic-1").apply catalog connected = .ok (leftover, none) := by
    have gone : connected.removeNode "logic-1" = some (leftover, .newLogic "logic-1") := by
      decide +kernel
    simp only [GraphEdit.apply, gone]
  obtain ⟨there₄, found₄, durable₄⟩ :=
    edited there₃ found₃ rfl removes (durable (by decide +kernel) (by decide +kernel))
  have back₄ : leftover.reimported = leftover := by decide +kernel
  rw [back₄] at found₄
  refine ⟨⟨durable₁, durable₂, durable₃, durable₄, trivial⟩, ?_⟩
  unfold afterAll removal
  rw [List.foldl_cons, List.foldl_cons, List.foldl_cons, List.foldl_cons, List.foldl_nil]
  exact found₄

/-- After the removal a new logic node gets the id of the one that was removed, and the edge that
was left behind under it. -/
theorem new_node_inherits_afterRemoval :
    let files := FileTree.ofFiles []
    let turn := offline (.edit .addLogic)
    (files.Reaches "s.json" ["s.json"] ∧ Durable "s.json" ["s.json"] files removal ∧
      (afterAll removal "s.json" files).strategy? ["s.json"] = some leftover ∧
      turn.newNode? (afterAll removal "s.json" files) leftover = some ("logic", .newLogic)) ∧
    turn.after "s.json" (afterAll removal "s.json" files) =
      (afterAll removal "s.json" files).put ["s.json"] (Document.ofGraph
        ⟨"My Strategy", [Graph.startNode, .newLogic "logic-1"], [.between "start" "logic-1"], 1⟩
        ⟨0, 0⟩).text ∧
    LeftBehind "s.json" ["s.json"] files removal (.between "start" "logic-1") "logic-1" := by
  intro files turn
  obtain ⟨durable, found⟩ := removal_run
  have adds : turn.newNode? (afterAll removal "s.json" files) leftover =
      some ("logic", .newLogic) := rfl
  obtain ⟨number, ⟨positive, -, least⟩, after, inherits⟩ :=
    new_node_inherits_iff reaches_offline removal durable found adds
  have free : leftover.node? (Graph.candidate "logic" 1) = none := by decide +kernel
  have first : number = 1 := by
    by_contra other
    exact least 1 Nat.one_pos (by omega) free
  subst first
  refine ⟨⟨reaches_offline, durable, found, adds⟩, after, ?_⟩
  rcases (inherits (.between "start" "logic-1") (by decide)).mp (Or.inr rfl) with
    left | ⟨_, none, _⟩
  · exact left
  · cases none

/-- A new logic node has an edge to it that is older than the node. -/
theorem dangling_edge_inherited :
    let before := afterAll removal "s.json" (.ofFiles [])
    let after := (offline (.edit .addLogic)).after "s.json" before
    ∃ graph graph', before.strategy? ["s.json"] = some graph ∧
      after.strategy? ["s.json"] = some graph' ∧
      graph.node? "logic-1" = none ∧ (graph'.node? "logic-1").isSome ∧
      Edge.between "start" "logic-1" ∈ graph.edges ∧
      Edge.between "start" "logic-1" ∈ graph'.edges := by
  intro before after
  obtain ⟨-, found⟩ := removal_run
  have command : (offline (.edit .addLogic)).command = .edit .addLogic := rfl
  have durable : leftover.addLogic.1.Durable ⟨0, 0⟩ :=
    ⟨⟨by decide, by decide, by decide⟩, by decide +kernel, by decide +kernel⟩
  have found' := strategy?_after (reaches_afterAll reaches_offline removal)
    (result_of_applied found command rfl rfl) durable
  exact ⟨leftover, leftover.addLogic.1.reimported, found, found', by decide +kernel,
    by decide +kernel, by decide, by decide +kernel⟩

end GraphTurn

end StrategyDesk
