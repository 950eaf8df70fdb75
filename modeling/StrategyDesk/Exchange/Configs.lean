import StrategyDesk.Strategy.Normalized

/-!
# Config messages

Pipeline configs as the engine lists, shows, stores and generates them.

## Main Definitions

* `ConfigSummary`, `ConfigDetail`, `ConfigBody`, `NewConfig`
* `GenerateParams`, `GraphToYaml`
* `YamlReply`, `CodeReply`, `ErrorReply`
-/

namespace StrategyDesk

structure ConfigSummary where
  name : String
  filename : String
  type : String
  symbols : List (Option String)
deriving DecidableEq, Repr

instance : Wire ConfigSummary where
  toJson c := .record [always "name" c.name, always "filename" c.filename, always "type" c.type,
    always "symbols" c.symbols]
  ofJson? j := do
    match ← j.slots? [["name"], ["filename"], ["type"], ["symbols"]] with
    | [name, filename, type, symbols] =>
      some { name := ← name.required, filename := ← filename.orElse "", type := ← type.orElse ""
             symbols := ← symbols.orElse [] }
    | _ => none

/-- The symbols that are present and not empty. -/
def ConfigSummary.shownSymbols (c : ConfigSummary) : List String :=
  (c.symbols.filterMap id).filter (· != "")

structure ConfigDetail where
  name : String
  type : String
  yaml : String
  parsed : Value
deriving DecidableEq

instance : Wire ConfigDetail where
  toJson c := .record [always "name" c.name, always "type" c.type, always "yaml" c.yaml,
    always "parsed" c.parsed]
  ofJson? j := do
    match ← j.slots? [["name"], ["type"], ["yaml"], ["parsed"]] with
    | [name, type, yaml, parsed] =>
      some { name := ← name.required, type := ← type.orElse "", yaml := ← yaml.orElse ""
             parsed := ← parsed.orElse .null }
    | _ => none

/-- The new contents of a stored config. -/
structure ConfigBody where
  yaml : String
deriving DecidableEq, Repr

instance : Wire ConfigBody where
  toJson b := .record [always "yaml" b.yaml]
  ofJson? j := do
    match ← j.slots? [["yaml"]] with
    | [yaml] => some { yaml := ← yaml.required }
    | _ => none

structure NewConfig where
  name : String
  yaml : String
deriving DecidableEq, Repr

instance : Wire NewConfig where
  toJson c := .record [always "name" c.name, always "yaml" c.yaml]
  ofJson? j := do
    match ← j.slots? [["name"], ["yaml"]] with
    | [name, yaml] => some { name := ← name.required, yaml := ← yaml.required }
    | _ => none

/-- The settings of a generated config. -/
structure GenerateParams where
  startingCash : Binary64
  slippageBps : Binary64
  dryRun : Bool
deriving DecidableEq

/-- What stands in when nothing is typed. -/
def GenerateParams.default : GenerateParams := ⟨.ofNat 10000, .zero false, true⟩

instance : Wire GenerateParams where
  toJson p := .record [always "starting_cash" p.startingCash,
    always "slippage_bps" p.slippageBps, always "dry_run" p.dryRun]
  ofJson? j := do
    match ← j.slots? [["starting_cash"], ["slippage_bps"], ["dry_run"]] with
    | [cash, slippage, dryRun] =>
      some { startingCash := ← cash.required, slippageBps := ← slippage.required
             dryRun := ← dryRun.required }
    | _ => none

/-- The request to turn a strategy into a config. -/
structure GraphToYaml where
  nodes : List NormalizedNode
  connections : List NormalizedConnection
  name : String
  symbols : List String
  params : GenerateParams
deriving DecidableEq

instance : Wire GraphToYaml where
  toJson r := .record [always "nodes" r.nodes, always "connections" r.connections,
    always "name" r.name, always "symbols" r.symbols, always "params" r.params]
  ofJson? j := do
    match ← j.slots? [["nodes"], ["connections"], ["name"], ["symbols"], ["params"]] with
    | [nodes, connections, name, symbols, params] =>
      some { nodes := ← nodes.required, connections := ← connections.required
             name := ← name.required, symbols := ← symbols.required
             params := ← params.required }
    | _ => none

/-- A generated config. -/
structure YamlReply where
  yaml : String
deriving DecidableEq, Repr

instance : Wire YamlReply where
  toJson r := .record [always "yaml" r.yaml]
  ofJson? j := do
    match ← j.slots? [["yaml"]] with
    | [yaml] => some { yaml := ← yaml.required }
    | _ => none

/-- Generated code. -/
structure CodeReply where
  code : String
deriving DecidableEq, Repr

instance : Wire CodeReply where
  toJson r := .record [always "code" r.code]
  ofJson? j := do
    match ← j.slots? [["code"]] with
    | [code] => some { code := ← code.required }
    | _ => none

/-- The body of an error reply. -/
structure ErrorReply where
  detail : Option Value
deriving DecidableEq

instance : Wire ErrorReply where
  toJson r := .record [always "detail" r.detail]
  ofJson? j := do
    match ← j.slots? [["detail"]] with
    | [detail] => some { detail := ← detail.optional }
    | _ => none

/-- The detail as text: a text as it is, any other value as compact JSON. -/
def ErrorReply.text? (r : ErrorReply) : Option String :=
  r.detail.bind fun v =>
    match v.json with
    | .string s => some s
    | .null => none
    | other => some other.compact

end StrategyDesk
