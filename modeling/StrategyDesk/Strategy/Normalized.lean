import StrategyDesk.Strategy.Graph

/-!
# Normalized strategies

The form of a strategy that the services take: every node with a name, a canonical type and one
map of parameters, every edge with its ends and handles.

## Main Definitions

* `NormalizedStrategy`, `NormalizedNode`, `NormalizedConnection`
* `Graph.normalize` — the one conversion behind compiling, backtesting and config generation
-/

namespace StrategyDesk

structure NormalizedNode where
  id : String
  type : String
  name : String
  parameters : ParamMap
  position : Position
deriving DecidableEq

structure NormalizedConnection where
  source : String
  target : String
  sourceHandle : Option String
  targetHandle : Option String
deriving DecidableEq, Repr

structure NormalizedStrategy where
  name : String
  nodes : List NormalizedNode
  connections : List NormalizedConnection
  targetPlatform : Option String
deriving DecidableEq

instance : Wire NormalizedNode where
  toJson n := .record [always "id" n.id, always "type" n.type, always "name" n.name,
    always "parameters" n.parameters, always "position" n.position]
  ofJson? j := do
    match ← j.slots? [["id"], ["type"], ["name"], ["parameters"], ["position"]] with
    | [id, type, name, parameters, position] =>
      some { id := ← id.required, type := ← type.required, name := ← name.required
             parameters := ← parameters.required, position := ← position.required }
    | _ => none

instance : Wire NormalizedConnection where
  toJson c := .record [always "source" c.source, always "target" c.target,
    always "sourceHandle" c.sourceHandle, always "targetHandle" c.targetHandle]
  ofJson? j := do
    match ← j.slots? [["source"], ["target"], ["sourceHandle"], ["targetHandle"]] with
    | [source, target, sourceHandle, targetHandle] =>
      some { source := ← source.required, target := ← target.required
             sourceHandle := ← sourceHandle.nullable, targetHandle := ← targetHandle.nullable }
    | _ => none

instance : Wire NormalizedStrategy where
  toJson s := .record [always "name" s.name, always "nodes" s.nodes,
    always "connections" s.connections, whenPresent "target_platform" s.targetPlatform]
  ofJson? j := do
    match ← j.slots? [["name"], ["nodes"], ["connections"], ["target_platform"]] with
    | [name, nodes, connections, platform] =>
      some { name := ← name.required, nodes := ← nodes.required
             connections := ← connections.required, targetPlatform := ← platform.optional }
    | _ => none

/-- The keys that are no parameters. -/
def reservedKeys : List String := [labelKey, callbackKey, parametersKey]

namespace Node

/-- The label, or a name for the node's kind. -/
def normalizedName (node : Node) : String :=
  match node.label with
  | some label => if label = "" then fallback else label
  | none => fallback
where
  fallback : String :=
    match node.kind with
    | .logic => "Logic"
    | .action =>
      let side := node.side?.getD ""
      s!"Action {side}"
    | _ => "Node"

/-- The data overlaid with the nested parameters, without the reserved keys. -/
def normalizedParameters (node : Node) : ParamMap :=
  (node.data.overlay node.parameters).filterKeys fun key => !reservedKeys.contains key

def normalize (node : Node) : NormalizedNode where
  id := node.id
  type := node.kind.canonicalName
  name := node.normalizedName
  parameters := node.normalizedParameters
  position := node.position

end Node

def Edge.normalize (edge : Edge) : NormalizedConnection :=
  ⟨edge.source, edge.target, edge.sourceHandle, edge.targetHandle⟩

/-- The normalized form under a name, for a platform if one is given. -/
def Graph.normalize (graph : Graph) (name : String) (platform : Option String) :
    NormalizedStrategy where
  name := name
  nodes := graph.nodes.map Node.normalize
  connections := graph.edges.map Edge.normalize
  targetPlatform := platform

end StrategyDesk
