import StrategyDesk.Error
import StrategyDesk.Strategy.Graph
import StrategyDesk.Timestamp

/-!
# Strategy documents

The JSON form in which strategies are stored. A node's label and parameters are packed into its
data when a document is written, and taken out again when it is read.

## Main Definitions

* `Document`, `DocumentNode`
* `Document.ofGraph`, `Document.toGraph` — to and from the edited form
* `Document.parse`, `Document.text` — to and from text
-/

namespace StrategyDesk

structure DocumentNode where
  id : String
  type : Option String
  data : ParamMap
  position : Position
deriving DecidableEq

structure Document where
  name : Option String
  nodes : List DocumentNode
  edges : List Edge
  version : Option String
  exportedAt : Option Timestamp
deriving DecidableEq

instance : Wire DocumentNode where
  toJson n := .record [always "id" n.id, whenPresent "type" n.type, always "data" n.data,
    always "position" n.position]
  ofJson? j := do
    match ← j.slots? [["id"], ["type"], ["data"], ["position"]] with
    | [id, type, data, position] =>
      some { id := ← id.required, type := ← type.optional, data := ← data.orElse .empty
             position := ← position.orElse .origin }
    | _ => none

instance : Wire Document where
  toJson d := .record [always "name" d.name, always "nodes" d.nodes, always "edges" d.edges,
    whenPresent "version" d.version, whenPresent "exportedAt" d.exportedAt]
  ofJson? j := do
    match ← j.slots? [["name"], ["nodes"], ["edges"], ["version"], ["exportedAt"]] with
    | [name, nodes, edges, version, exportedAt] =>
      some { name := ← name.optional, nodes := ← nodes.orElse [], edges := ← edges.orElse []
             version := ← version.optional, exportedAt := ← exportedAt.optional }
    | _ => none

namespace DocumentNode

/-- Packs the label and the parameters of a node into its data. -/
def ofNode (node : Node) : DocumentNode where
  id := node.id
  type := some node.kind.canvasName
  data :=
    let labelled := match node.label with
      | some label => node.data.insert labelKey (.ofString label)
      | none => node.data
    labelled.insert parametersKey (.ofMap node.parameters)
  position := node.position

/-- Takes the label and the parameters out of the data and drops callbacks. A label that is no
text, and parameters that are no object, are dropped too. -/
def toNode (node : DocumentNode) : Node where
  id := node.id
  kind := .ofName node.type
  label := (node.data.get? labelKey).bind Value.text?
  data := ((node.data.erase callbackKey).erase labelKey).erase parametersKey
  parameters := (((node.data.get? parametersKey).bind Value.map?).getD .empty).erase callbackKey
  position := node.position

end DocumentNode

namespace Document

/-- The version that documents are marked with. -/
def currentVersion : String := "1.0"

/-- The name of a strategy whose document has none. -/
def importedName : String := "Imported Strategy"

/-- The document of a strategy, exported at a moment. -/
def ofGraph (graph : Graph) (exportedAt : Timestamp) : Document where
  name := some graph.name
  nodes := graph.nodes.map .ofNode
  edges := graph.edges
  version := some currentVersion
  exportedAt := some exportedAt

/-- The strategy of a document. -/
def toGraph (document : Document) : Graph :=
  let name := match document.name with
    | some name => if name = "" then importedName else name
    | none => importedName
  .ofParts name (document.nodes.map DocumentNode.toNode) document.edges

/-- The document of a text. -/
def parse (text : String) : Except Error Document :=
  match Wire.parse? (α := Document) text with
  | some document => .ok document
  | none => .error .notADocument

/-- The text of a document. -/
def text (document : Document) : String := (toJson document).pretty

end Document

/-- The strategy of a document text. -/
def Graph.parse (text : String) : Except Error Graph := (Document.parse text).map Document.toGraph

end StrategyDesk
