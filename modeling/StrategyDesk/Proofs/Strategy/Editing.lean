import StrategyDesk.Strategy.Document

/-!
# Editing a strategy

What an editor may do to a strategy graph, one operation after the other, and what each operation
can make of the nodes.  Whatever is to be proved of all graphs that come about by editing rests on
the case analysis given here.

## Main Definitions

* `Graph.Operation`, `Graph.perform` — an operation, and the graph after it
* `Graph.edited`, `Graph.issued` — the graph after operations, and the ids of the nodes that they
  added
* `Graph.Performed` — what an operation can do, case by case
* `Graph.Reachable` — the graphs that come about by editing a new strategy or one that was read

## Main Statements

* `Graph.performed` — an operation does one of the things that `Graph.Performed` lists
* `Graph.Reachable.forall_nodes` — what holds of the nodes that are added or read, and is kept when
  a node is moved or edited, holds of all nodes
-/

namespace StrategyDesk

namespace Node

/-! ## New nodes -/

/-- The node of an indicator, at an offset on the diagonal. -/
def ofIndicator (indicator : Indicator) (offset : Nat) (id : String) : Node :=
  { bare id .indicator with
    label := some indicator.name
    data := .ofList [("id", .ofString indicator.id), ("name", .ofString indicator.name),
      ("category", .ofString indicator.category)]
    parameters := indicator.startingParams
    position := .ofNats offset offset }

/-- A logic node as it is added. -/
def newLogic (id : String) : Node :=
  { bare id .logic with
    parameters := .ofList [("operator", .ofString "crossunder"), ("value", .ofString "")]
    position := .ofNats 400 300 }

/-- An action node as it is added. -/
def newAction (side : Side) (id : String) : Node :=
  { bare id .action with
    data := .ofList [(sideKey, .ofString side.name)]
    parameters := .ofList [(sideKey, .ofString side.name), ("stopLoss", .ofString ""),
      ("takeProfit", .ofString "")]
    position := .ofNats 600 300 }

end Node

namespace Graph

/-! ## Operations -/

/-- What an editor may do. -/
inductive Operation where
  | addIndicator (indicator : Indicator)
  | addLogic
  | addAction (side : Side)
  | connect (edge : Edge)
  | removeNode (id : String)
  | removeEdge (index : Nat)
  | autoLayout
  | rename (name : String)
  | apply (edit : Edit)

/-- The graph after an operation, and the id of the node that it added, if it added one. What
cannot be carried out changes nothing. -/
def perform (graph : Graph) : Operation → Graph × Option String
  | .addIndicator indicator => (graph.addIndicator indicator).map id some
  | .addLogic => graph.addLogic.map id some
  | .addAction side => (graph.addAction side).map id some
  | .connect edge => (graph.connect edge, none)
  | .removeNode id => (((graph.removeNode id).map (·.1)).getD graph, none)
  | .removeEdge index => (((graph.removeEdge index).map (·.1)).getD graph, none)
  | .autoLayout => (graph.autoLayout, none)
  | .rename name => (graph.rename name, none)
  | .apply edit => ((graph.apply edit).1, none)

/-- The graph after operations. -/
def edited (graph : Graph) (operations : List Operation) : Graph :=
  operations.foldl (fun graph operation => (graph.perform operation).1) graph

/-- The ids of the nodes that operations add, in order. -/
def issued (graph : Graph) : List Operation → List String
  | [] => []
  | operation :: rest =>
    (graph.perform operation).2.toList ++ (graph.perform operation).1.issued rest

/-- What an operation adds to a graph of some size: the text before the number of the id, and the
node with an id. -/
def Operation.newNode? (size : Nat) : Operation → Option (String × (String → Node))
  | addIndicator indicator => some (indicator.id, .ofIndicator indicator (100 + 40 * (size % 10)))
  | addLogic => some ("logic", .newLogic)
  | addAction side => some ("action", .newAction side)
  | connect _ | removeNode _ | removeEdge _ | autoLayout | rename _ | apply _ => none

/-- A new node has the id that it is given. -/
theorem Operation.newNode?_id {operation : Operation} {size : Nat} {stem : String}
    {make : String → Node} (adds : operation.newNode? size = some (stem, make)) (id : String) :
    (make id).id = id := by
  cases operation with
  | addIndicator _ | addLogic | addAction _ =>
      obtain ⟨-, rfl⟩ := Prod.mk.inj (Option.some.inj adds)
      rfl
  | connect _ | removeNode _ | removeEdge _ | autoLayout | rename _ | apply _ => cases adds

/-- What an operation can do. -/
inductive Performed (graph : Graph) : Operation → Graph → Option String → Prop
  | added {operation stem make} (adds : operation.newNode? graph.nodes.length = some (stem, make)) :
      Performed graph operation (graph.addNode stem make).1 (some (graph.addNode stem make).2)
  | connected (edge) : Performed graph (.connect edge) (graph.connect edge) none
  | removed (id) : Performed graph (.removeNode id)
      { graph with nodes := graph.nodes.eraseP (·.id == id) } none
  | disconnected (index) : Performed graph (.removeEdge index)
      { graph with edges := graph.edges.eraseIdx index } none
  | laidOut : Performed graph .autoLayout graph.autoLayout none
  | renamed (name) : Performed graph (.rename name) (graph.rename name) none
  | applied {edit stored} (accepted : acceptInput edit.field edit.typed = .ok stored) :
      Performed graph (.apply edit)
        { graph with nodes := updateFirst edit.node (writeField · edit.field stored) graph.nodes }
        none
  | kept {operation} (adds : operation.newNode? graph.nodes.length = none) :
      Performed graph operation graph none

/-- An operation does one of the things that `Performed` lists. -/
theorem performed (graph : Graph) (operation : Operation) :
    Performed graph operation (graph.perform operation).1 (graph.perform operation).2 := by
  cases operation with
  | addIndicator indicator => exact @Performed.added graph (.addIndicator indicator) _ _ rfl
  | addLogic => exact @Performed.added graph .addLogic _ _ rfl
  | addAction side => exact @Performed.added graph (.addAction side) _ _ rfl
  | connect edge => exact .connected edge
  | autoLayout => exact .laidOut
  | rename name => exact .renamed name
  | removeNode id =>
      cases found : graph.node? id with
      | none =>
          have same : graph.perform (.removeNode id) = (graph, none) := by
            simp [perform, removeNode, found]
          rw [same]
          exact .kept rfl
      | some node =>
          have removed : graph.perform (.removeNode id) =
              ({ graph with nodes := graph.nodes.eraseP (·.id == id) }, none) := by
            simp [perform, removeNode, found]
          rw [removed]
          exact .removed id
  | removeEdge index =>
      cases found : graph.edges[index]? with
      | none =>
          have same : graph.perform (.removeEdge index) = (graph, none) := by
            simp [perform, removeEdge, found]
          rw [same]
          exact .kept rfl
      | some edge =>
          have removed : graph.perform (.removeEdge index) =
              ({ graph with edges := graph.edges.eraseIdx index }, none) := by
            simp [perform, removeEdge, found]
          rw [removed]
          exact .disconnected index
  | apply edit =>
      cases found : graph.node? edit.node with
      | none =>
          have same : graph.perform (.apply edit) = (graph, none) := by simp [perform, apply, found]
          rw [same]
          exact .kept rfl
      | some node =>
          cases accepted : acceptInput edit.field edit.typed with
          | error why =>
              have same : graph.perform (.apply edit) = (graph, none) := by
                simp [perform, apply, found, accepted]
              rw [same]
              exact .kept rfl
          | ok stored =>
              have written : graph.perform (.apply edit) =
                  ({ graph with
                      nodes := updateFirst edit.node (writeField · edit.field stored)
                        graph.nodes }, none) := by
                simp [perform, apply, found, accepted]
              rw [written]
              exact .applied accepted

/-! ## The nodes after an operation -/

/-- A node after the first one with an id was changed is a changed node or one that was there. -/
theorem mem_updateFirst {id : String} {change : Node → Node} {nodes : List Node} {node : Node}
    (member : node ∈ updateFirst id change nodes) :
    node ∈ nodes ∨ ∃ old ∈ nodes, node = change old := by
  induction nodes with
  | nil => cases member
  | cons first rest ih =>
      unfold updateFirst at member
      split at member
      · rcases List.mem_cons.mp member with rfl | later
        · exact Or.inr ⟨first, List.mem_cons_self, rfl⟩
        · exact Or.inl (List.mem_cons_of_mem _ later)
      · rcases List.mem_cons.mp member with rfl | later
        · exact Or.inl List.mem_cons_self
        · rcases ih later with there | ⟨old, there, same⟩
          · exact Or.inl (List.mem_cons_of_mem _ there)
          · exact Or.inr ⟨old, List.mem_cons_of_mem _ there, same⟩

section Features

variable {α : Type} {feature : Node → α}

/-- What a change keeps of every node is kept in place. -/
theorem map_updateFirst {id : String} {change : Node → Node}
    (keeps : ∀ node, feature (change node) = feature node) (nodes : List Node) :
    (updateFirst id change nodes).map feature = nodes.map feature := by
  induction nodes with
  | nil => rfl
  | cons first rest ih =>
      unfold updateFirst
      split
      · rw [List.map_cons, List.map_cons, keeps]
      · rw [List.map_cons, List.map_cons, ih]

/-- Nodes that are moved keep their order. -/
theorem map_autoLayout
    (keeps : ∀ node position, feature { node with position := position } = feature node)
    (graph : Graph) : graph.autoLayout.nodes.map feature = graph.nodes.map feature := by
  refine List.ext_getElem? fun i => ?_
  simp [autoLayout, Option.map_map, Function.comp_def, keeps]

end Features

section Nodes

variable {graph after : Graph} {operation : Operation} {issued : Option String}

/-- What holds of all nodes holds of them after an operation, if it holds of the node that the
operation adds and is kept when a node is moved or a field of it is written. -/
theorem Performed.forall_nodes (holds : Node → Prop)
    (new : ∀ {size stem make}, operation.newNode? size = some (stem, make) →
      ∀ id, holds (make id))
    (moved : ∀ node position, holds node → holds { node with position := position })
    (written : ∀ node field typed stored, acceptInput field typed = .ok stored → holds node →
      holds (writeField node field stored))
    (performed : Performed graph operation after issued)
    (before : ∀ node ∈ graph.nodes, holds node) : ∀ node ∈ after.nodes, holds node := by
  cases performed with
  | connected _ | disconnected _ | renamed _ | kept _ => exact before
  | added adds =>
      intro node member
      rcases List.mem_append.mp member with there | added
      · exact before node there
      · rw [List.mem_singleton.mp added]
        exact new adds _
  | removed id => exact fun node member => before node (List.mem_of_mem_eraseP member)
  | laidOut =>
      intro node member
      obtain ⟨i, inside, rfl⟩ := List.mem_mapIdx.mp member
      exact moved _ _ (before _ (List.getElem_mem inside))
  | applied accepted =>
      intro node member
      rcases mem_updateFirst member with there | ⟨old, there, rfl⟩
      · exact before node there
      · exact written old _ _ _ accepted (before old there)

end Nodes

/-! ## Reachable graphs -/

/-- A graph that was read is that of a document. -/
theorem Document.of_parse {text : String} {graph : Graph}
    (accepted : Graph.parse text = .ok graph) :
    ∃ document, Document.parse text = .ok document ∧ document.toGraph = graph := by
  unfold Graph.parse at accepted
  cases parsed : Document.parse text with
  | error why => rw [parsed] at accepted; cases accepted
  | ok document =>
      rw [parsed] at accepted
      exact ⟨document, rfl, Except.ok.inj accepted⟩

/-- The graphs that come about by editing a new strategy, or one that was read from a document. -/
inductive Reachable : Graph → Prop
  | initial : Reachable .initial
  | read {text : String} {graph : Graph} (accepted : Graph.parse text = .ok graph) : Reachable graph
  | perform {graph : Graph} (operation : Operation) (before : Reachable graph) :
      Reachable (graph.perform operation).1

/-- A graph comes about by any operations on one that came about. -/
theorem Reachable.edited (operations : List Operation) :
    ∀ {graph : Graph}, Reachable graph → Reachable (graph.edited operations) := by
  induction operations with
  | nil => exact fun reachable => reachable
  | cons operation rest ih => exact fun reachable => ih (reachable.perform operation)

/-- **What holds of the nodes that are added or read, and is kept when a node is moved or edited,
holds of all nodes** of a graph that comes about by editing. -/
theorem Reachable.forall_nodes (holds : Node → Prop) (first : holds startNode)
    (imported : ∀ node : DocumentNode, holds node.toNode)
    (new : ∀ {operation : Operation} {size stem make}, operation.newNode? size = some (stem, make) →
      ∀ id, holds (make id))
    (moved : ∀ node position, holds node → holds { node with position := position })
    (written : ∀ node field typed stored, acceptInput field typed = .ok stored → holds node →
      holds (writeField node field stored))
    {graph : Graph} (reachable : Reachable graph) : ∀ node ∈ graph.nodes, holds node := by
  induction reachable with
  | initial =>
      intro node member
      rw [List.mem_singleton.mp member]
      exact first
  | @read text graph accepted =>
      obtain ⟨document, -, rfl⟩ := Document.of_parse accepted
      intro node member
      obtain ⟨node, -, rfl⟩ := List.mem_map.mp member
      exact imported node
  | perform operation before ih =>
      exact (performed _ operation).forall_nodes holds new moved written ih

end Graph

end StrategyDesk
