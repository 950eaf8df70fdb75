import StrategyDesk.Json.Wire
import StrategyDesk.Text.Blank
import StrategyDesk.Text.Layout

/-!
# Nodes and edges

What a strategy is drawn with: a start node, indicators, logic and action nodes, and the edges
between them.

## Main Definitions

* `NodeKind`, `Side`, `Position`, `Node`
* `LogicInput`, `Edge`
-/

namespace StrategyDesk

/-- The key of a node's label in its written data. -/
def labelKey : String := "label"

/-- The key of the nested parameters in a node's written data. -/
def parametersKey : String := "parameters"

/-- The key under which a canvas keeps its change callback. -/
def callbackKey : String := "onParameterChange"

/-- The key of an action node's side. -/
def sideKey : String := "actionType"

/-! ## Kinds -/

/-- What a node is in the strategy. -/
inductive NodeKind where
  /-- Where the strategy begins. -/
  | start
  | indicator
  | logic
  | action
  /-- A kind under another name, which passes through unchanged. -/
  | other (name : String)
deriving DecidableEq, Repr

namespace NodeKind

/-- The kind under its name on a canvas or in a document; a node without a name is an
indicator. -/
def ofName : Option String → NodeKind
  | none => indicator
  | some name =>
    if name = "" ∨ name = "default" ∨ name = "indicatorNode" ∨ name = "indicator" then indicator
    else if name = "input" then start
    else if name = "logicNode" ∨ name = "logic" then logic
    else if name = "actionNode" ∨ name = "action" then action
    else other name

/-- The name in documents. -/
def canvasName : NodeKind → String
  | start => "input"
  | indicator => "indicatorNode"
  | logic => "logicNode"
  | action => "actionNode"
  | other name => name

/-- The name in what the services are sent. -/
def canonicalName : NodeKind → String
  | start => "input"
  | indicator => "indicator"
  | logic => "logic"
  | action => "action"
  | other name => name

/-- The node computes or does something: neither the start nor of an unknown kind. -/
def isWorking : NodeKind → Bool
  | indicator | logic | action => true
  | start | other _ => false

end NodeKind

/-! ## Sides -/

/-- What an action node does. -/
inductive Side where
  | buy
  | sell
deriving DecidableEq, Repr

namespace Side

def name : Side → String
  | buy => "buy"
  | sell => "sell"

/-- The side under its name in any case and with blanks around it. What is no side is given back
as it was understood. -/
def ofName? (text : String) : Except String Side :=
  let name := lowerAscii (trim text)
  if name = "buy" then .ok buy
  else if name = "sell" then .ok sell
  else .error name

/-- What is said of a name that is no side. -/
def unknownText (name : String) : String := s!"unknown action side '{name}' (expected buy or sell)"

end Side

/-- A constructor without fields, written as its name or as an object whose only key it is. -/
def Json.variant? {α : Type} (names : List (String × α)) : Json → Option α
  | .string name => names.lookup name
  | .object [(name, .null)] => names.lookup name
  | _ => none

instance : Wire Side where
  toJson side := .string side.name
  ofJson? := Json.variant? [("buy", .buy), ("sell", .sell)]

/-! ## Nodes -/

/-- A place on the canvas. -/
structure Position where
  x : Binary64
  y : Binary64
deriving DecidableEq

namespace Position

def origin : Position := ⟨.zero false, .zero false⟩

instance : Inhabited Position := ⟨origin⟩

/-- A place with whole coordinates. -/
def ofNats (x y : Nat) : Position := ⟨.ofNat x, .ofNat y⟩

end Position

instance : Wire Position where
  toJson p := .record [always "x" p.x, always "y" p.y]
  ofJson? j := do
    match ← j.slots? [["x"], ["y"]] with
    | [x, y] => some { x := ← x.required, y := ← y.required }
    | _ => none

/-- A node as it is edited. Its `data` holds neither the label nor the nested parameters nor a
callback; those are taken out when a document is read. -/
structure Node where
  id : String
  kind : NodeKind
  label : Option String
  data : ParamMap
  parameters : ParamMap
  position : Position
deriving DecidableEq

namespace Node

/-- A bare node at the origin. -/
def bare (id : String) (kind : NodeKind) : Node where
  id := id
  kind := kind
  label := none
  data := .empty
  parameters := .empty
  position := .origin

/-- What an action node does, by the text in its data or else in its parameters. -/
def side? (node : Node) : Option String :=
  ((node.data.get? sideKey).or (node.parameters.get? sideKey)).bind Value.text?

/-- A parameter, nested ones first. -/
def param? (node : Node) (key : String) : Option Value :=
  (node.parameters.get? key).or (node.data.get? key)

end Node

/-! ## Edges -/

/-- Which input of a logic node an edge feeds: the watched series, or what it is compared with. -/
inductive LogicInput where
  | a
  | b
deriving DecidableEq, Repr

namespace LogicInput

/-- The name of the input at the end of an edge. -/
def handle : LogicInput → String
  | a => "a"
  | b => "b"

def ofHandle? (handle : String) : Option LogicInput :=
  if handle = "a" then some a else if handle = "b" then some b else none

/-- How the input is shown. -/
def caption : LogicInput → String
  | a => "A"
  | b => "B"

end LogicInput

/-- An edge from one node to another. It may name nodes that do not exist. -/
structure Edge where
  source : String
  target : String
  sourceHandle : Option String
  targetHandle : Option String
deriving DecidableEq, Repr

namespace Edge

/-- An edge without handles. -/
def between (source target : String) : Edge := ⟨source, target, none, none⟩

/-- The edge led into an input of a logic node. -/
def into (edge : Edge) (input : LogicInput) : Edge :=
  { edge with targetHandle := some input.handle }

/-- The input that the edge feeds. -/
def input? (edge : Edge) : Option LogicInput := edge.targetHandle.bind LogicInput.ofHandle?

/-- The caption of the input, empty when the edge feeds none. -/
def caption (edge : Edge) : String := (edge.input?.map LogicInput.caption).getD ""

end Edge

instance : Wire Edge where
  toJson e := .record [always "source" e.source, always "target" e.target,
    always "sourceHandle" e.sourceHandle, always "targetHandle" e.targetHandle]
  ofJson? j := do
    match ← j.slots? [["source"], ["target"], ["sourceHandle"], ["targetHandle"]] with
    | [source, target, sourceHandle, targetHandle] =>
      some { source := ← source.required, target := ← target.required
             sourceHandle := ← sourceHandle.optional, targetHandle := ← targetHandle.optional }
    | _ => none

end StrategyDesk
