import StrategyDesk.Backtest.Job
import StrategyDesk.Backtest.Phase
import StrategyDesk.Backtest.Summary
import StrategyDesk.Exchange.Configs
import StrategyDesk.Gateway.Launch
import StrategyDesk.Monitor.Phase
import StrategyDesk.Monitor.Source
import StrategyDesk.Notice
import StrategyDesk.Strategy.Graph
import StrategyDesk.Terminal.Style

/-!
# Lines on the terminal

What is shown of statuses, logs, configs, graphs, backtests and notices, line by line.

## Main Definitions

* `Palette.statusLines`, `Palette.graphLines`, `Palette.backtestLines`
* `Palette.logLine`, `Palette.runLine`, `Palette.configLine`, `Palette.indicatorLine`,
  `Palette.gatewayLine`, `Palette.noticeLine`, `Palette.phaseStrip`
-/

namespace StrategyDesk.Palette

variable (palette : Palette)

/-- A state of being up or down. -/
def flag (up : Bool) (yes no : String) : String :=
  if up then palette.paint .boldGreen yes else palette.paint .red no

/-- A process id in brackets, if there is one. -/
def pidSuffix : Option UInt32 → String
  | some pid => s!" (pid {pid})"
  | none => ""

/-- The status of the services, with the time of day of its update if there is one. -/
def statusLines (status : Option ServiceStatus) (updatedAt : Option String) : List String :=
  match status with
  | none => [palette.paint .yellow "No status yet (engine unreachable?)"]
  | some s =>
    let phase := PipelinePhase.ofReport s.pipeline.phase
    ["Gateway     " ++ palette.flag s.gateway.running "RUNNING" "STOPPED"
        ++ pidSuffix s.gateway.pid,
      "Auth        " ++ palette.flag s.authenticated "AUTHENTICATED" "NOT AUTHENTICATED",
      "Pipeline    " ++ palette.flag s.pipeline.running "RUNNING" "STOPPED"
        ++ pidSuffix s.pipeline.pid]
    ++ (if s.pipeline.running then ["Phase       " ++ palette.paint .cyan phase.label] else [])
    ++ (s.pipeline.runDir.map ("Run dir     " ++ ·)).toList
    ++ [s!"Decisions   {s.decisions.total} total, {s.decisions.actionSignals} action signals"]
    ++ (s.decisions.lastTimestamp.map ("Last signal " ++ ·)).toList
    ++ (updatedAt.map fun clock => palette.paint .dimmed ("Updated     " ++ clock)).toList

/-- A line of a log. -/
def logLine (line : LogLine) : String :=
  match line.level with
  | .error => palette.paint .red line.text
  | .warning => palette.paint .yellow line.text
  | .debug => palette.paint .dimmed line.text
  | .info => line.text

/-- A historical run and what it left behind. -/
def runLine (run : RunInfo) : String :=
  String.intercalate "  " ([palette.paint .bold run.name]
    ++ (if run.hasLog then ["log"] else [])
    ++ (if run.hasDecisions then ["decisions"] else [])
    ++ (run.modified.map (palette.paint .dimmed)).toList)

/-- A stored config. -/
def configLine (config : ConfigSummary) : String :=
  palette.paintColumn .bold 24 config.name ++ " " ++ padRight 10 config.type ++ " "
    ++ String.intercalate ", " config.shownSymbols

/-- An indicator of the catalog. -/
def indicatorLine (indicator : Indicator) : String :=
  padRight 12 indicator.id ++ " " ++ padRight 20 indicator.name ++ " "
    ++ palette.paint .dimmed indicator.category

/-- A node and its parameters. -/
def nodeLine (node : Node) : String :=
  let params := node.parameters.toList.map fun e => e.1 ++ "=" ++ e.2.json.compact
  "  " ++ padRight 14 node.id ++ " " ++ padRight 10 node.kind.canonicalName ++ " "
    ++ String.intercalate " " params

/-- An edge under its index. -/
def edgeLine (index : Nat) (edge : Edge) : String :=
  let input := if edge.caption = "" then "" else " [" ++ edge.caption ++ "]"
  s!"  #{index} {edge.source} -> {edge.target}" ++ input

/-- A strategy: its name and size, its nodes, its edges. -/
def graphLines (graph : Graph) : List String :=
  (palette.paint .bold graph.displayName
      ++ s!" ({graph.nodes.length} nodes, {graph.edges.length} edges)")
    :: graph.nodes.map nodeLine ++ graph.edges.mapIdx edgeLine

/-- All phases with marks for how far a backtest has come. -/
def phaseStrip (reported : Option String) : String :=
  String.intercalate "  " (BacktestPhase.all.map fun phase =>
    match phase.standing reported with
    | .done => palette.paint .green ("[x] " ++ phase.name)
    | .current => palette.paint .boldCyan ("[>] " ++ phase.name)
    | .pending => palette.paint .dimmed ("[ ] " ++ phase.name))

/-- The lowest and the highest equity of a curve that has a point. -/
def equityRange? (curve : List EquityPoint) : Option (Binary64 × Binary64) :=
  match curve.map (·.equity) with
  | [] => none
  | first :: rest => some (rest.foldl .min first, rest.foldl .max first)

/-- A trade. -/
def tradeLine (trade : Trade) : String :=
  "  " ++ padRight 10 trade.date ++ " " ++ padRight 6 (trade.symbol.getD "-") ++ " "
    ++ padRight 5 (trade.action.getD "-") ++ " "
    ++ padLeft 8 (trade.qty.getD (.zero false)).plain ++ " @ " ++ trade.priceValue.fixed 2

/-- The report on a finished backtest: its key figures, the range of the thinned equity curve, and
the first ten trades. -/
def backtestLines (job : BacktestJob) : List String :=
  match job.result with
  | none => [s!"Job {job.id} finished without a result"]
  | some result =>
    let s := result.summary
    let hundred := Binary64.ofNat 100
    let gain := (s.totalReturn.mul hundred).fixed 2 ++ "%"
    let style := if (Binary64.zero false).le s.totalReturn then Style.green else Style.red
    let curve := downsample result.equityCurve maxChartPoints
    [s!"Job          {job.id} ({elapsedText job.elapsedSeconds})",
      "Return       " ++ palette.paint style gain,
      "Max drawdown " ++ (s.maxDrawdown.mul hundred).fixed 2 ++ "%",
      "Sharpe       " ++ s.sharpe.fixed 2,
      "Equity       " ++ s.startingEquity.fixed 2 ++ " -> " ++ s.endingEquity.fixed 2,
      s!"Trades       {s.totalTrades}"]
    ++ (if s.usedDefaultStrategy then
        [palette.paint .yellow "Engine fell back to its default strategy"] else [])
    ++ ((equityRange? curve).map fun (low, high) =>
        "Equity range " ++ low.fixed 2 ++ " .. " ++ high.fixed 2
          ++ s!" over {curve.length} points").toList
    ++ (result.trades.take 10).map tradeLine

/-- The state of the gateway. -/
def gatewayLine : GatewayState → String
  | .idle => "Gateway idle"
  | .starting _ message => palette.paint .cyan message
  | .running pid => palette.paint .green ("Gateway is running" ++ pidSuffix pid)
  | .scriptExited message => palette.paint .yellow message
  | .failed message => palette.paint .red message

/-- A notice with the mark of its kind. -/
def noticeLine (notice : Notice) : String :=
  match notice.kind with
  | .success => palette.paint .green ("✓ " ++ notice.text)
  | .error => palette.paint .red ("✗ " ++ notice.text)
  | .info => "• " ++ notice.text

end StrategyDesk.Palette
