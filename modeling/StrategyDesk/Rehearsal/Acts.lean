import StrategyDesk.Backtest.Form
import StrategyDesk.Rehearsal.Stage
import StrategyDesk.Strategy.Document

/-!
# Acts of a rehearsal

What can be done on the stage: backtests are run, control actions carried out, monitors started,
stopped and poked. A part appears on the stage when it is first used.

## Main Definitions

* `Stage.submit`, `Stage.cancelBacktest`, `Stage.waitBacktest`
* `Stage.execute`, `Stage.waitGateway`
* `Stage.pollStatus`, `Stage.watchStatus`, `Stage.stopStatus`
* `Stage.refreshLogs`, `Stage.setSource`, `Stage.fetchTail`, `Stage.listRuns`, `Stage.watchLogs`,
  `Stage.switchSource`, `Stage.stopLogs`
* `Stage.poke`
-/

namespace StrategyDesk.Stage

/-! ## Triggers -/

/-- The trigger of the log monitor started last. -/
def logTrigger? (s : Stage) : Option Trigger :=
  s.logs.bind fun b => if b.loops.isEmpty then none else some (.logs (b.loops.length - 1))

/-- The trigger of the status monitor started last. -/
def statusTrigger? (s : Stage) : Option Trigger :=
  s.status.bind fun b => if b.loops.isEmpty then none else some (.status (b.loops.length - 1))

/-! ## Backtests -/

/-- The stage with a backtest runner. -/
def withBacktest (s : Stage) : Stage × BacktestRunner :=
  let runner := s.backtest.getD (.new s.polling.backtestMs.toNat)
  ({ s with backtest := some runner }, runner)

/-- Submits a backtest and has its progress polled. -/
def submitRequest (s : Stage) (request : BacktestRequest) : Stage × Except Error String :=
  let (s, runner) := s.withBacktest
  match runner.begin with
  | .error e => (s, .error e)
  | .ok runner =>
    let (s, reply) := { s with backtest := some runner }.converse
      (Dialogue.question (.submitBacktest request))
    let runner := (s.backtest.getD runner).conclude reply s.now
    let s := { s with backtest := some runner }
    match reply with
    | .ok id => (s.enter s.now (.backtestTick (runner.loops.length - 1)), .ok id)
    | .error e => (s, .error e)

/-- Submits the strategy of a document, or a new one, with a form. -/
def submit (s : Stage) (document : Option String) (form : BacktestForm) :
    Stage × Except Error String :=
  match (document.map Graph.parse).getD (.ok .initial) with
  | .error e => (s, .error e)
  | .ok graph =>
    match form.parse with
    | .error e => (s, .error e)
    | .ok params => s.submitRequest (params.request graph)

def cancelBacktest (s : Stage) : Stage :=
  let (s, runner) := s.withBacktest
  { s with backtest := some runner.cancel }

/-- Waits until no backtest is under way. Gives nothing if the wait is given up. -/
def waitBacktest (s : Stage) : Stage × Option BacktestState :=
  let (s, runner) := s.withBacktest
  let slot (s : Stage) : BacktestState := (s.backtest.getD runner).slot
  let (s, done) := s.waitFor fun s => (slot s).isSettled
  (s, if done then some (slot s) else none)

/-! ## Control -/

/-- The stage with a controller. It refreshes the monitors that exist when it first appears. -/
def withGateway (s : Stage) : Stage × Controller :=
  match s.gateway with
  | some controller => (s, controller)
  | none =>
    let controller := Controller.new (.of s.polling)
    let refreshed := s.statusTrigger?.toList ++ s.logTrigger?.toList
    ({ s with gateway := some controller, refreshed }, controller)

/-- Carries out a control action. -/
def execute (s : Stage) (action : ControlAction) : Stage × Except Error ControlOutcome :=
  let (s, controller) := s.withGateway
  match controller.begin action with
  | .error e => (s, .error e)
  | .ok controller =>
    let (s, reply) := { s with gateway := some controller }.converse
      (Dialogue.question action.call)
    let before := s.gateway.getD controller
    let (controller, result, refresh) := before.conclude action (action.readReply reply) s.now
    let s := { s with gateway := some controller }.refresh refresh
    if before.loops.length < controller.loops.length then
      (s.enterLaunchTick before.loops.length, result)
    else (s, result)

/-- Waits until no launch is under way. Gives nothing if the wait is given up. -/
def waitGateway (s : Stage) : Stage × Option GatewayState :=
  let (s, controller) := s.withGateway
  let slot (s : Stage) : GatewayState := (s.gateway.getD controller).slot
  let (s, done) := s.waitFor fun s => !(slot s).isStarting
  (s, if done then some (slot s) else none)

/-! ## Status -/

def withStatus (s : Stage) : Stage × StatusBoard :=
  let board := s.status.getD .empty
  ({ s with status := some board }, board)

/-- Reads the status once. -/
def pollStatus (s : Stage) : Stage × Option ServiceStatus :=
  let (s, board) := s.withStatus
  let (s, reply) := s.converse (Dialogue.question .status)
  let answer : Except Error ServiceStatus := reply
  ({ s with status := some ((s.status.getD board).take answer) }, answer.toOption)

/-- Starts the status monitor, in place of one that runs. -/
def watchStatus (s : Stage) : Stage :=
  let (s, board) := s.withStatus
  let board := board.watch s.polling.statusMs.toNat s.now
  { s with status := some board }.enter s.now (.statusLook (board.loops.length - 1))

def stopStatus (s : Stage) : Stage := { s with status := s.status.map StatusBoard.stop }

/-! ## Logs -/

def withLogs (s : Stage) : Stage × LogBoard :=
  let board := s.logs.getD (.empty s.polling.logLines.toNat)
  ({ s with logs := some board }, board)

/-- Reads the log of the current source once, and tells whether it could be read. -/
def refreshLogs (s : Stage) : Stage × Bool :=
  let (s, board) := s.withLogs
  let source := board.source
  let (s, reply) := s.converse (Dialogue.question (.logs source.query board.maxLines))
  let answer : Except Error (List LogLine) := reply
  ({ s with logs := some ((s.logs.getD board).take source answer) }, answer.toOption.isSome)

def setSource (s : Stage) (source : LogSource) : Stage :=
  let (s, board) := s.withLogs
  { s with logs := some { board with source } }

/-- Reads lines of a source without holding them. -/
def fetchTail (s : Stage) (source : LogSource) (lines : Nat) :
    Stage × Except Error (List LogLine) :=
  s.withLogs.1.converse (Dialogue.question (.logs source.query lines))

def listRuns (s : Stage) : Stage × Except Error (List RunInfo) :=
  s.withLogs.1.converse (Dialogue.question .logRuns)

/-- Starts the log monitor, in place of one that runs. -/
def watchLogs (s : Stage) : Stage :=
  let (s, board) := s.withLogs
  let board := board.watch s.polling.statusMs.toNat s.now
  { s with logs := some board }.enter s.now (.logLook (board.loops.length - 1))

/-- Switches the source of the log monitor and asks for a refresh; without a monitor nothing
happens. -/
def switchSource (s : Stage) (source : LogSource) : Stage :=
  match s.logTrigger? with
  | some trigger => (s.setSource source).fire trigger
  | none => s

def stopLogs (s : Stage) : Stage := { s with logs := s.logs.map LogBoard.stop }

/-- Asks a monitor for a refresh, now or after a delay. -/
def poke (s : Stage) (trigger : Option Trigger) (after : Option Nat) : Stage :=
  match trigger, after with
  | some trigger, some delay => s.enter s.now (.fireLater trigger delay)
  | some trigger, none => s.fire trigger
  | none, _ => s

end StrategyDesk.Stage
