import StrategyDesk.Command.Arguments
import StrategyDesk.Session.Desk

/-!
# Commands

What the command line can be told to do.

## Main Definitions

* `Command`, `Invocation`
* `Invocation.parse` — the meaning of arguments
-/

namespace StrategyDesk

inductive Command where
  /-- Works on the strategy document in a file. -/
  | graph (file : String) (command : GraphCommand)
  | compile (graph : String) (platform : Platform) (output : Option String)
  | backtest (graph : String) (texts : FormTexts)
  | status (watch : Bool)
  | logs (source : String) (lines : Option Nat) (follow : Bool)
  | runs
  | control (action : ControlAction)
  | config (command : ConfigCommand)
  | indicators
  /-- Writes a settings file. -/
  | init (output : String) (commented force : Bool)
deriving DecidableEq

/-- A command, and what is given beside it. -/
structure Invocation where
  settingsFile : Option String
  /-- Overrides the log level of the settings. -/
  logFilter : Option String
  command : Command
deriving DecidableEq

/-- The settings file of a working directory. -/
def localSettingsFile : String := "alphastrat.toml"

/-! ## Single commands -/

/-- A command that stands alone: its options, and its meaning, if it has one. -/
structure Leaf where
  options : List OptionSpec
  build : Given → Option Command

namespace Leaf

/-- A path by position is never empty. -/
def path? (text : String) : Option String := if text = "" then none else some text

/-- A command that takes one file. -/
def file (build : String → Command) : Leaf where
  options := []
  build given :=
    match given.positions with
    | [file] => (path? file).map build
    | _ => none

/-- A command that takes nothing by position. -/
def bare (options : List OptionSpec) (build : Given → Option Command) : Leaf where
  options := options
  build given := if given.positions.isEmpty then build given else none

/-- A command that takes a name. -/
def named (options : List OptionSpec) (build : String → Given → Command) : Leaf where
  options := options
  build given :=
    match given.positions with
    | [name] => some (build name given)
    | _ => none

end Leaf

/-- A command that edits the document in a file. -/
def editLeaf (read : List String → Option GraphEdit) : Leaf where
  options := []
  build given :=
    match given.positions with
    | file :: rest => do some (.graph (← Leaf.path? file) (.edit (← read rest)))
    | [] => none

/-- A number that counts something. -/
def count? (text : String) : Option Nat := parseWord? (wordSize 64) text.toList

/-- The commands on documents. -/
def graphLeaves : List (String × Leaf) := [
  ("new", { options := [.value "name" (some 'n')]
            build := fun given =>
              match given.positions with
              | [file] => (Leaf.path? file).map (.graph · (.create (given.value? "name")))
              | _ => none }),
  ("show", .file (.graph · .view)),
  ("add-indicator", editLeaf fun
    | [indicator] => some (.addIndicator indicator)
    | _ => none),
  ("add-logic", editLeaf fun
    | [] => some .addLogic
    | _ => none),
  ("add-action", editLeaf fun
    | [side] => (Side.ofName? side).toOption.map .addAction
    | _ => none),
  ("connect", { options := [.value "input" none]
                build := fun given =>
                  match given.positions with
                  | [file, source, target] => do
                    let input ← match given.value? "input" with
                      | some name => some <$> LogicInput.ofHandle? (lowerAscii name)
                      | none => some none
                    some (.graph (← Leaf.path? file) (.edit (.connect source target input)))
                  | _ => none }),
  ("set", editLeaf fun
    | [node, field, typed] => some (.set ⟨node, field, typed⟩)
    | _ => none),
  ("remove", editLeaf fun
    | [node] => some (.removeNode node)
    | _ => none),
  ("disconnect", editLeaf fun
    | [index] => (count? index).map .removeEdge
    | _ => none),
  ("layout", editLeaf fun
    | [] => some .layout
    | _ => none),
  ("normalize", .file (.graph · .normalize))]

/-- The commands on the gateway. -/
def gatewayLeaves : List (String × Leaf) := [
  ("start", .bare [] fun _ => some (.control .gatewayStart)),
  ("stop", .bare [] fun _ => some (.control .gatewayStop)),
  ("login", .bare [] fun _ => some (.control .gatewayLogin))]

/-- The commands on the pipeline. -/
def pipelineLeaves : List (String × Leaf) := [
  ("start", .named [.flag "live" none] fun name given =>
    .control (.pipelineStart name !(given.has "live"))),
  ("stop", .bare [] fun _ => some (.control .pipelineStop))]

/-- The commands on stored configs. -/
def configLeaves : List (String × Leaf) := [
  ("list", .bare [] fun _ => some (.config .list)),
  ("show", .named [] fun name _ => .config (.display name)),
  ("save", { options := []
             build := fun given =>
               match given.positions with
               | [name, file] => (Leaf.path? file).map fun file => .config (.save name file)
               | _ => none }),
  ("create", .named [.path "file" (some 'f')] fun name given =>
    .config (.create name (given.value? "file"))),
  ("delete", .named [] fun name _ => .config (.delete name)),
  ("generate", .bare
    [.path "graph" (some 'g'), .value "name" (some 'n'), .value "symbols" (some 's'),
      .value "cash" none, .value "slippage" none, .flag "live" none, .value "save-as" none]
    fun given => do
      let params := .ofTexts (given.value? "cash") (given.value? "slippage") (given.has "live")
      some (.config (.generate (← given.value? "graph") (given.value? "name")
        ((given.value? "symbols").getD "AAPL") params (given.value? "save-as"))))]

/-- The commands that stand at the top. -/
def topLeaves : List (String × Leaf) := [
  ("compile", .bare
    [.path "graph" (some 'g'), .value "platform" (some 'p'), .path "output" (some 'o')]
    fun given => do
      let platform ← [Platform.pineScript, .cSharp, .mql].find? fun platform =>
        platform.name == (given.value? "platform").getD Platform.pineScript.name
      some (.compile (← given.value? "graph") platform (given.value? "output"))),
  ("backtest", .bare
    [.path "graph" (some 'g'), .value "symbols" (some 's'), .value "years" none,
      .value "cash" none, .value "slippage" none]
    fun given => do
      some (.backtest (← given.value? "graph") ⟨given.value? "symbols", given.value? "years",
        given.value? "cash", given.value? "slippage"⟩)),
  ("status", .bare [.flag "watch" (some 'w')] fun given => some (.status (given.has "watch"))),
  ("logs", .bare
    [.value "source" (some 's'), .value "lines" (some 'n'), .flag "runs" none,
      .flag "follow" (some 'f')]
    fun given => do
      let lines ← match given.value? "lines" with
        | some text => some <$> count? text
        | none => some none
      if given.has "runs" then some .runs
      else some (.logs ((given.value? "source").getD "pipeline") lines (given.has "follow"))),
  ("indicators", .bare [] fun _ => some .indicators),
  ("init", .bare
    [.path "output" (some 'o'), .flag "commented" none, .flag "force" (some 'f')]
    fun given => some (.init ((given.value? "output").getD localSettingsFile)
      (given.has "commented") (given.has "force")))]

/-- The groups of commands. -/
def commandGroups : List (String × List (String × Leaf)) := [
  ("graph", graphLeaves), ("gateway", gatewayLeaves), ("pipeline", pipelineLeaves),
  ("configs", configLeaves)]

/-! ## Whole command lines -/

/-- The options of every level. -/
def sharedOptions : List OptionSpec := [.path "config" (some 'c'), .value "log" none]

/-- Reads a level that names the next one. -/
def scanChoice (choices : List String) (hasVersion : Bool) (arguments : List String) :
    Except Halt (Given × String × List String) := do
  let level : Level := ⟨sharedOptions, choices, hasVersion⟩
  match ← level.scan .empty none false arguments with
  | (given, some next) => return (given, next)
  | (_, none) => throw .refused

/-- Reads the level of a command. What is shared counts from the deepest level that gives it. -/
def Leaf.parse (leaf : Leaf) (above : List Given) (arguments : List String) :
    Except Halt Invocation := do
  let level : Level := ⟨leaf.options ++ sharedOptions, [], false⟩
  let (given, _) ← level.scan .empty none false arguments
  let levels := given :: above
  match leaf.build given with
  | some command => return {
      settingsFile := levels.findSome? (·.value? "config")
      logFilter := levels.findSome? (·.value? "log")
      command }
  | none => throw .refused

/-- The meaning of arguments. -/
def Invocation.parse (arguments : List String) : Except Halt Invocation := do
  let names := topLeaves.map (·.1) ++ commandGroups.map (·.1)
  let (top, name, rest) ← scanChoice names true arguments
  match topLeaves.lookup name, commandGroups.lookup name with
  | some leaf, _ => leaf.parse [top] rest
  | none, some leaves =>
    let (group, name, rest) ← scanChoice (leaves.map (·.1)) false rest
    match leaves.lookup name with
    | some leaf => leaf.parse [group, top] rest
    | none => throw .refused
  | none, none => throw .refused

end StrategyDesk
