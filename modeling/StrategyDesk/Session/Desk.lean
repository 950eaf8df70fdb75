import StrategyDesk.Backtest.Form
import StrategyDesk.Backtest.Runner
import StrategyDesk.Configs.Store
import StrategyDesk.Gateway.Controller
import StrategyDesk.Monitor.Source
import StrategyDesk.Session.GraphFile

/-!
# Commands of a session

What each command does once the settings are in order.

## Main Definitions

* `Desk` — the settings, the addresses of the services and the palette of a session
* `Desk.compile`, `Desk.backtest`, `Desk.showStatus`, `Desk.watchStatus`, `Desk.showLogs`,
  `Desk.followLogs`, `Desk.control`, `Desk.config`, `Desk.showIndicators`
-/

namespace StrategyDesk

/-- What a session works with. -/
structure Desk where
  settings : Settings
  urls : ServiceUrls
  palette : Palette

/-- What is done with the configs on the engine. -/
inductive ConfigCommand where
  | list
  | display (name : String)
  /-- Replaces a config with the contents of a file. -/
  | save (name file : String)
  | create (name : String) (file : Option String)
  | delete (name : String)
  /-- Generates a config from the strategy in a file, and stores it under a name if one is given. -/
  | generate (graph : String) (name : Option String) (symbols : String) (params : GenerateParams)
      (saveAs : Option String)
deriving DecidableEq

/-- Texts typed in place of the defaults of the backtest form. -/
structure FormTexts where
  symbols : Option String
  years : Option String
  cash : Option String
  slippage : Option String
deriving DecidableEq, Repr

/-- The form with the texts that were typed. -/
def BacktestForm.override (form : BacktestForm) (texts : FormTexts) : BacktestForm where
  symbols := texts.symbols.getD form.symbols
  years := texts.years.getD form.years
  startingCash := texts.cash.getD form.startingCash
  slippageBps := texts.slippage.getD form.slippageBps

namespace Desk

open Session (notify sayLines perform ofProgram orFail require readGraph)

variable (desk : Desk)

/-! ## Asking -/

/-- A dialogue with the services. -/
def converse {α : Type} (d : Dialogue α) : Session α := ofProgram (.ofDialogue desk.urls d)

/-- A dialogue whose error is a failure. -/
def obtain {α : Type} (d : Dialogue (Except Error α)) : Session α := do
  require (← desk.converse d)

/-- A question whose error is a failure. -/
def ask (call : Call) : Session call.Answer := desk.obtain (Dialogue.question call)

/-- The text of a file. -/
def readText (path : String) : Session String := do
  let read : Except FileFault String ← perform (.readFile path)
  orFail (read.mapError (.unreadable path))

/-! ## Code -/

/-- Generates code for the strategy in a file, and prints it or writes it to another file. -/
def compile (graph : String) (platform : Platform) (output : Option String) : Session Unit := do
  let graph ← readGraph graph
  let code ← desk.converse (generateCode desk.urls.compiler.shortText graph platform)
  match output with
  | none => sayLines [code]
  | some path =>
    let written : Except FileFault Unit ← perform (.writeFile path code)
    orFail (written.mapError (.unwritable path))
    notify .success s!"Wrote {platform.name} code to {path}"

/-! ## Backtests -/

/-- The job after the reply to a question for its progress: it goes on until it has come to an
end, and an error is passed over. -/
def enterProgress (job : BacktestJob) : Except Error BacktestProgress →
    Turn BacktestJob BacktestState
  | .error _ => ⟨[], .inl job⟩
  | .ok report =>
    let job := job.apply report
    ⟨[], if job.status.isTerminal then .inr job.state else .inl job⟩

/-- Polls a job until it has come to an end. -/
def progress (id : String) : Poll where
  State := BacktestJob
  Result := BacktestState
  start := { BacktestJob.submitted id with status := .polling }
  urls := desk.urls
  question := .backtestProgress id
  period := desk.settings.polling.backtestMs.toNat
  atOnce := true
  enter job _ reply := enterProgress job reply
  brokenOff := none

/-- Runs a backtest of the strategy in a file and prints its result. -/
def backtest (graph : String) (texts : FormTexts) : Session Unit := do
  let graph ← readGraph graph
  let form := (BacktestForm.ofDefaults desk.settings.backtest).override texts
  let params ← require form.parse
  let id : String ← desk.ask (.submitBacktest (params.request graph))
  let final : BacktestState ← Session.poll (desk.progress id)
  match final with
  | .completed job =>
    sayLines (desk.palette.phaseStrip (some "completed") :: desk.palette.backtestLines job)
    notify .success "Backtest completed"
  | .failed _ message => throw (.error (.jobFailed message))
  | .idle | .submitting | .polling _ => pure ()

/-! ## Status and logs -/

/-- Prints the status of the services. -/
def showStatus : Session Unit := do
  let status : Except Error ServiceStatus ← desk.converse (Dialogue.question .status)
  match status with
  | .error _ => throw .noStatus
  | .ok status =>
    let now : Timestamp ← perform .clock
    sayLines (desk.palette.statusLines (some status) (some now.clockText))

/-- Reads the status again and again, and prints it after a blank line. -/
def statusWatch : Poll where
  State := Unit
  Result := Unit
  start := ()
  urls := desk.urls
  question := .status
  period := desk.settings.polling.statusMs.toNat
  atOnce := true
  enter _ now reply :=
    let reply : Except Error ServiceStatus := reply
    match reply with
    | .ok status =>
      ⟨"" :: desk.palette.statusLines (some status) (some now.clockText), .inl ()⟩
    | .error _ => ⟨[], .inl ()⟩
  brokenOff := some fun _ => ()

def watchStatus : Session Unit := Session.poll desk.statusWatch

/-- The lines to print of a tail, and the last line shown after it. -/
def enterTail (palette : Palette) (lastShown : Option LogLine) :
    Except Error (List LogLine) → Turn (Option LogLine) Unit
  | .error _ => ⟨[], .inl lastShown⟩
  | .ok lines =>
    ⟨(unseenLines lines lastShown).map palette.logLine, .inl (lines.getLast?.or lastShown)⟩

/-- Reads a log again and again, and prints the lines that are new. -/
def logFollow (source : LogSource) (lines : Nat) : Poll where
  State := Option LogLine
  Result := Unit
  start := none
  urls := desk.urls
  question := .logs source.query lines
  period := desk.settings.polling.statusMs.toNat
  atOnce := true
  enter lastShown _ reply := enterTail desk.palette lastShown reply
  brokenOff := some fun _ => ()

def followLogs (source : LogSource) (lines : Nat) : Session Unit :=
  Session.poll (desk.logFollow source lines)

/-- Prints the tail of a log. -/
def showLogs (source : LogSource) (lines : Nat) : Session Unit := do
  let tail : List LogLine ← desk.ask (.logs source.query lines)
  sayLines (tail.map desk.palette.logLine)

/-- Prints the historical runs. -/
def showRuns : Session Unit := do
  let runs : List RunInfo ← desk.ask .logRuns
  sayLines (runs.map desk.palette.runLine)

/-! ## Control -/

/-- The launch after the reply to a question for it: it goes on until it has come to an end, and
an error is passed over. -/
def enterLaunch (jobId : String) : Except Error GatewayReport → Turn Unit GatewayState
  | .error _ => ⟨[], .inl ()⟩
  | .ok report =>
    let state := report.state jobId
    ⟨[], if state.isTerminal then .inr state else .inl ()⟩

/-- Polls a launch of the gateway until it has come to an end. -/
def launch (jobId : String) : Poll where
  State := Unit
  Result := GatewayState
  start := ()
  urls := desk.urls
  question := .gatewayJob jobId
  period := desk.settings.polling.gatewayJobMs.toNat
  atOnce := false
  enter _ _ reply := enterLaunch jobId reply
  brokenOff := none

/-- Tells how a launch ended. A script that ended may leave a gateway that comes up a little
later, so the status is read once more. -/
def tellLaunch (state : GatewayState) : Session Unit := do
  sayLines [desk.palette.gatewayLine state]
  match state with
  | .running _ => notify .success "Gateway is running"
  | .scriptExited message =>
    let _ : Unit ← perform (.rest desk.settings.polling.gatewayGraceMs.toNat)
    let status : Except Error ServiceStatus ← desk.converse (Dialogue.question .status)
    let up := match status with
      | .ok status => status.gateway.running
      | .error _ => false
    if up then notify .success "Gateway is running" else throw (.told message)
  | .failed message => throw (.told message)
  | .idle | .starting .. => pure ()

/-- Carries out a control action, and waits for a launch that it begins. -/
def control (action : ControlAction) : Session Unit := do
  let controller ← require ((Controller.new (.of desk.settings.polling)).begin action)
  let reply : Reply action.call ← desk.converse (Dialogue.question action.call)
  let (controller, outcome, _) := controller.conclude action (action.readReply reply) 0
  let outcome ← require outcome
  if !outcome.ok then throw (.told outcome.message)
  match controller.slot with
  | .starting jobId _ =>
    notify .info outcome.message
    let state : GatewayState ← Session.poll (desk.launch jobId)
    desk.tellLaunch state
  | _ => notify .success outcome.message

/-! ## Configs and indicators -/

/-- Creates a config and tells its name. -/
def createConfig (name : String) (yaml : Option String) : Session Unit := do
  let created ← desk.obtain (StrategyDesk.createConfig name yaml)
  notify .success s!"Config \"{created.name}\" created"

/-- Carries out a command on the stored configs. -/
def config : ConfigCommand → Session Unit
  | .list => do
    let configs : List ConfigSummary ← desk.ask .listConfigs
    sayLines (configs.map desk.palette.configLine)
  | .display name => do
    let found : ConfigDetail ← desk.ask (.getConfig name)
    perform (.say found.yaml)
  | .save name file => do
    let yaml ← readText file
    desk.obtain (saveConfig name yaml)
    notify .success s!"Saved {name}"
  | .create name file => do
    let yaml ← match file with
      | some file => some <$> readText file
      | none => pure none
    desk.createConfig name yaml
  | .delete name => do
    let _ : Unit ← desk.ask (.deleteConfig name)
    notify .success s!"Deleted {name}"
  | .generate graph name symbols params saveAs => do
    let graph ← readGraph graph
    let yaml ← desk.obtain (generateConfig graph (name.or (some graph.name)) symbols params)
    match saveAs with
    | some target => desk.createConfig target (some yaml)
    | none => perform (.say yaml)

/-- Prints the catalog. -/
def showIndicators : Session Unit := do
  sayLines ((← desk.converse loadCatalog).map desk.palette.indicatorLine)

end Desk

end StrategyDesk
