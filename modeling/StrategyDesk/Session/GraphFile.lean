import StrategyDesk.Compile.Code
import StrategyDesk.Session.Program
import StrategyDesk.Strategy.Document
import StrategyDesk.Terminal.Lines

/-!
# Graph files

Strategy documents in files: created, shown, and edited one command at a time.

## Main Definitions

* `GraphEdit`, `GraphEdit.apply` — one edit of a strategy
* `GraphEdit.textAfter` — the text of a document after an edit
* `GraphCommand`, `GraphCommand.run`
-/

namespace StrategyDesk

/-- One edit of a strategy. -/
inductive GraphEdit where
  /-- Adds the indicator that has an id in the catalog. -/
  | addIndicator (id : String)
  | addLogic
  | addAction (side : Side)
  | connect (source target : String) (input : Option LogicInput)
  | set (edit : Graph.Edit)
  | removeNode (id : String)
  | removeEdge (index : Nat)
  | layout
deriving DecidableEq, Repr

namespace GraphEdit

/-- Refuses an edit that no document allows. -/
def check : GraphEdit → Except Failure Unit
  | removeNode id => if id = Graph.startId then .error .startNode else .ok ()
  | _ => .ok ()

/-- The edit has to know the catalog. -/
def needsCatalog : GraphEdit → Bool
  | addIndicator _ => true
  | _ => false

/-- A strategy with a new node, and what is said of it. -/
def added (result : Graph × String) : Graph × Option String :=
  (result.1, some s!"Added {result.2}")

/-- The strategy after an edit, and what is said of it, or why it cannot be made. Ids in the
catalog are compared without regard to case. -/
def apply (catalog : List Indicator) (graph : Graph) :
    GraphEdit → Except Failure (Graph × Option String)
  | addIndicator name =>
    match catalog.find? fun indicator => sameIgnoringCase indicator.id name with
    | some indicator => .ok (added (graph.addIndicator indicator))
    | none => .error (.unknownIndicator name)
  | addLogic => .ok (added graph.addLogic)
  | addAction side => .ok (added (graph.addAction side))
  | connect source target input =>
    match [source, target].find? fun id => (graph.node? id).isNone with
    | some id => .error (.unknownNode id)
    | none =>
      let edge := Edge.between source target
      .ok (graph.connect ((input.map edge.into).getD edge), none)
  | set edit =>
    match graph.apply edit with
    | (graph, .applied stored) => .ok (graph, some s!"{edit.node}: stored '{stored}'")
    | (_, .rejected why) => .error (.rejectedInput why.text)
    | (_, .unknownNode) => .error (.unknownNode edit.node)
  | removeNode id =>
    match graph.removeNode id with
    | some (graph, _) => .ok (graph, none)
    | none => .error (.unknownNode id)
  | removeEdge index =>
    match graph.removeEdge index with
    | some (graph, _) => .ok (graph, none)
    | none => .error (.unknownEdge index)
  | layout => .ok (graph.autoLayout, none)

/-- The text of the document after an edit at a time, and what is said of it. -/
def textAfter (catalog : List Indicator) (now : Timestamp) (edit : GraphEdit) (graph : Graph) :
    Except Failure (String × Option String) := do
  let (graph, remark) ← edit.apply catalog graph
  return ((Document.ofGraph graph now).text, remark)

end GraphEdit

/-- What is done with a document in a file. -/
inductive GraphCommand where
  | create (name : Option String)
  | view
  | normalize
  | edit (edit : GraphEdit)
deriving DecidableEq, Repr

/-- The new strategy that a file is created with. -/
def GraphCommand.created (name : Option String) : Graph :=
  match name with
  | some name => Graph.initial.rename name
  | none => .initial

namespace Session

/-- The strategy in a file. -/
def readGraph (path : String) : Session Graph := do
  let read : Except FileFault String ← perform (.readFile path)
  let text ← require (read.mapError .file)
  require (Graph.parse text)

/-- Writes the text of a document to a file. -/
def writeDocument (path text : String) : Session Unit := do
  let written : Except FileFault Unit ← perform (.writeFile path text)
  require (written.mapError .file)

/-- Edits the document in a file; nothing is written unless the edit can be made. -/
def editFile (urls : ServiceUrls) (path : String) (edit : GraphEdit) : Session Unit := do
  orFail edit.check
  let graph ← readGraph path
  let catalog ← if edit.needsCatalog then ofProgram (.ofDialogue urls loadCatalog) else pure []
  let now : Timestamp ← perform .clock
  let (text, remark) ← orFail (edit.textAfter catalog now graph)
  writeDocument path text
  match remark with
  | some text => notify .success text
  | none => pure ()

/-- Carries out a command on the file at a path. -/
def graphFile (palette : Palette) (urls : ServiceUrls) (path : String) :
    GraphCommand → Session Unit
  | .create name => do
    let taken : Bool ← perform (.fileExists path)
    if taken then throw (.fileExists path)
    let now : Timestamp ← perform .clock
    writeDocument path (Document.ofGraph (GraphCommand.created name) now).text
    notify .success s!"Created {path}"
  | .view => do sayLines (palette.graphLines (← readGraph path))
  | .normalize => do
    let graph ← readGraph path
    sayLines [(toJson (graph.normalize graph.displayName none)).pretty]
  | .edit edit => editFile urls path edit

end Session

end StrategyDesk
