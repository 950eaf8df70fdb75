import StrategyDesk.Backtest.Form
import StrategyDesk.Exchange.Call
import StrategyDesk.Yaml.Check

/-!
# Stored configs

Pipeline configs on the engine: listing, loading, saving, creating, deleting, and generating one
from a strategy. What is typed is checked before anything is sent.

## Main Definitions

* `saveConfig`, `createConfig`, `generateConfig`
* `GenerateParams.ofTexts`
-/

namespace StrategyDesk

/-- What a new config starts from when no text is given. -/
def configTemplate : String :=
  "# New AlphaStrat config\n\nblocks: \x7b\x7d\n\npipeline:\n  symbol: AAPL\n"
    ++ "  buy_expr: \"False\"\n  sell_expr: \"False\"\n  amount_expr: \"10\"\n  dry_run: true\n"

/-- The name of a generated config that is given none. -/
def generatedName : String := "generated_strategy"

/-- Saves a text under a name, if it is YAML. -/
def saveConfig (name yaml : String) : Dialogue (Except Error Unit) :=
  if isYamlDocument yaml then Dialogue.question (.updateConfig name yaml)
  else .done (.error (.refused .badYaml))

/-- The error of a creation, told in terms of the config. -/
def creationError (name : String) : Error → Error
  | .conflict _ => .conflict s!"Config \"{name}\" already exists"
  | .remote 400 detail =>
    .remote 400 (some ((detail.filter fun text => !isBlankText text).getD "Invalid config data"))
  | e => e

/-- Creates a config, from the template when no text is given, and gives it back as stored. -/
def createConfig (name : String) (yaml : Option String) :
    Dialogue (Except Error ConfigDetail) := do
  let name := trim name
  if name = "" then return .error (.refused .unnamedConfig)
  match ← Dialogue.question (.createConfig ⟨name, yaml.getD configTemplate⟩) with
  | .error e => return .error (creationError name e)
  | .ok _ => Dialogue.question (.getConfig name)

/-- The request to turn a strategy into a config, if there is more to it than one node. -/
def generateRequest (graph : Graph) (name : Option String) (symbols : String)
    (params : GenerateParams) : Except Error GraphToYaml :=
  if graph.nodes.length ≤ 1 then .error (.refused .emptyCanvas)
  else
    let name := ((name.map trim).filter (· != "")).getD generatedName
    let strategy := graph.normalize name none
    .ok {
      nodes := strategy.nodes
      connections := strategy.connections
      name := strategy.name
      symbols := parseSymbols symbols
      params }

/-- The number that a text stands for, with blanks around it allowed, or a fallback. -/
def numberOr (fallback : Binary64) (typed : Option String) : Binary64 :=
  (typed.bind fun text => Binary64.parse? (trimChars text.toList)).getD fallback

/-- Parameters from typed texts; what is no number counts as not typed. -/
def GenerateParams.ofTexts (cash slippage : Option String) (live : Bool) : GenerateParams where
  startingCash := numberOr GenerateParams.default.startingCash cash
  slippageBps := numberOr GenerateParams.default.slippageBps slippage
  dryRun := !live

/-- Has the engine turn a strategy into a config. -/
def generateConfig (graph : Graph) (name : Option String) (symbols : String)
    (params : GenerateParams) : Dialogue (Except Error String) :=
  match generateRequest graph name symbols params with
  | .error e => .done (.error e)
  | .ok request => Dialogue.question (.graphToYaml request)

end StrategyDesk
