import StrategyDesk.Strategy.Catalog
import StrategyDesk.Strategy.Field
import StrategyDesk.Strategy.Node

/-!
# Strategy graphs

A strategy as it is edited: its name, its nodes and edges, and a counter for the ids of new nodes.

## Main Definitions

* `Graph`, `Graph.initial` — the graph, and the one that holds only the start node
* `Graph.addIndicator`, `Graph.addLogic`, `Graph.addAction`, `Graph.connect`, `Graph.removeNode`,
  `Graph.removeEdge`, `Graph.autoLayout`, `Graph.rename` — editing
* `Graph.apply` — an edit of one parameter, with its `Outcome`
-/

namespace StrategyDesk

/-- A strategy graph. -/
structure Graph where
  name : String
  nodes : List Node
  edges : List Edge
  /-- The number last used for the id of a new node. -/
  counter : Nat
deriving DecidableEq

namespace Graph

/-- The id of the start node. -/
def startId : String := "start"

/-- The name of a strategy that has none. -/
def defaultName : String := "My Strategy"

/-- The node where every new strategy begins. -/
def startNode : Node :=
  { Node.bare startId .start with
    label := some "Strategy Start"
    position := .ofNats 250 50 }

/-- A new strategy, holding only the start node. -/
def initial : Graph := ⟨defaultName, [startNode], [], 0⟩

/-- A strategy read from somewhere else; its ids are counted from the beginning. -/
def ofParts (name : String) (nodes : List Node) (edges : List Edge) : Graph :=
  ⟨name, nodes, edges, 0⟩

def rename (graph : Graph) (name : String) : Graph := { graph with name := name }

/-- The name, or the default one in place of a blank. -/
def displayName (graph : Graph) : String :=
  if isBlankText graph.name then defaultName else graph.name

/-- The first node with an id. -/
def node? (graph : Graph) (id : String) : Option Node := graph.nodes.find? (·.id == id)

/-- Some node computes or does something. -/
def hasWorkingNodes (graph : Graph) : Bool := graph.nodes.any (·.kind.isWorking)

/-! ## New nodes -/

/-- The id of a new node: a text before a dash and a number. -/
def candidate (stem : String) (number : Nat) : String := s!"{stem}-{number}"

/-- The first number above `counter` whose id no node has, trying at most `fuel + 1` of them. -/
def nextNumber (graph : Graph) (stem : String) : Nat → Nat → Nat
  | 0, counter => counter + 1
  | fuel + 1, counter =>
    if (graph.node? (candidate stem (counter + 1))).isNone then counter + 1
    else nextNumber graph stem fuel (counter + 1)

/-- The number of the next new node. Each taken id belongs to a node, so one try more than there
are nodes finds a free one. -/
def freshNumber (graph : Graph) (stem : String) : Nat :=
  graph.nextNumber stem graph.nodes.length graph.counter

/-- Adds a node made from a fresh id with this stem, and gives the id. -/
def addNode (graph : Graph) (stem : String) (make : String → Node) : Graph × String :=
  let number := graph.freshNumber stem
  let id := candidate stem number
  ({ graph with nodes := graph.nodes ++ [make id], counter := number }, id)

/-- Adds an indicator; each one is placed a little further down the diagonal, ten to a row. -/
def addIndicator (graph : Graph) (indicator : Indicator) : Graph × String :=
  let offset := 100 + 40 * (graph.nodes.length % 10)
  graph.addNode indicator.id fun id =>
    { Node.bare id .indicator with
      label := some indicator.name
      data := .ofList [("id", .ofString indicator.id), ("name", .ofString indicator.name),
        ("category", .ofString indicator.category)]
      parameters := indicator.startingParams
      position := .ofNats offset offset }

/-- Adds a logic node. -/
def addLogic (graph : Graph) : Graph × String :=
  graph.addNode "logic" fun id =>
    { Node.bare id .logic with
      parameters := .ofList [("operator", .ofString "crossunder"), ("value", .ofString "")]
      position := .ofNats 400 300 }

/-- Adds an action node; its side stands both in its data and in its parameters. -/
def addAction (graph : Graph) (side : Side) : Graph × String :=
  graph.addNode "action" fun id =>
    { Node.bare id .action with
      data := .ofList [(sideKey, .ofString side.name)]
      parameters := .ofList [(sideKey, .ofString side.name), ("stopLoss", .ofString ""),
        ("takeProfit", .ofString "")]
      position := .ofNats 600 300 }

/-! ## Edges, removal, layout -/

def connect (graph : Graph) (edge : Edge) : Graph := { graph with edges := graph.edges ++ [edge] }

/-- Removes the first node with an id. Its edges stay. -/
def removeNode (graph : Graph) (id : String) : Option (Graph × Node) :=
  (graph.node? id).map fun node =>
    ({ graph with nodes := graph.nodes.eraseP (·.id == id) }, node)

/-- Removes the edge at an index. -/
def removeEdge (graph : Graph) (index : Nat) : Option (Graph × Edge) :=
  graph.edges[index]?.map fun edge => ({ graph with edges := graph.edges.eraseIdx index }, edge)

/-- Places the nodes from left to right, in three rows by turns. -/
def autoLayout (graph : Graph) : Graph :=
  { graph with
    nodes := graph.nodes.mapIdx fun i node =>
      { node with position := .ofNats (100 + 200 * i) (150 + 150 * (i % 3)) } }

/-! ## Edits -/

/-- A change of one parameter of one node. -/
structure Edit where
  node : String
  field : String
  typed : String
deriving DecidableEq, Repr

/-- What became of an edit. -/
inductive Outcome where
  /-- Stored, in the form given. -/
  | applied (stored : String)
  | rejected (why : Rejected)
  | unknownNode
deriving DecidableEq, Repr

/-- The fields whose edits are also written to the node's data. -/
def sharedFields : List String := ["operator", "value", "stopLoss", "takeProfit"]

/-- Writes a text to a field of a node. -/
def writeField (node : Node) (field stored : String) : Node :=
  { node with
    parameters := node.parameters.insert field (.ofString stored)
    data :=
      if sharedFields.contains field then node.data.insert field (.ofString stored)
      else node.data }

/-- Changes the first node with an id. -/
def updateFirst (id : String) (change : Node → Node) : List Node → List Node
  | [] => []
  | node :: rest =>
    if node.id = id then change node :: rest else node :: updateFirst id change rest

/-- Makes an edit of the first node with the id; nothing changes unless it is applied. -/
def apply (graph : Graph) (edit : Edit) : Graph × Outcome :=
  match graph.node? edit.node with
  | none => (graph, .unknownNode)
  | some _ =>
    match acceptInput edit.field edit.typed with
    | .error why => (graph, .rejected why)
    | .ok stored =>
      ({ graph with nodes := updateFirst edit.node (writeField · edit.field stored) graph.nodes },
        .applied stored)

end Graph

end StrategyDesk
