import StrategyDesk.Backtest.Runner
import StrategyDesk.Gateway.Controller
import StrategyDesk.Monitor.Logs
import StrategyDesk.Monitor.Status
import StrategyDesk.Rehearsal.Script

/-!
# The stage of a rehearsal

The desk's parts on a virtual clock, with an engine whose replies are scripted. What the parts do
in the background stands on an agenda and is done when the clock gets there.

## Main Definitions

* `Duty` — a piece of background work
* `Stage` — clock, agenda, script, calls made, and the parts
* `Stage.settle` — does all that is due up to a moment
* `Stage.converse` — carries out a dialogue, the clock moving by the delays of the replies

## Design Notes

Of duties that are due at the same moment the one entered first is done first. A loop that has more
to do at once is entered ahead of all others.
-/

namespace StrategyDesk

/-- Which loop a request for a refresh goes to. -/
inductive Trigger where
  | status (loop : Nat)
  | logs (loop : Nat)
deriving DecidableEq, Repr

/-- A piece of background work. -/
inductive Duty where
  | backtestTick (loop : Nat)
  | backtestReply (loop : Nat) (reply : Reply (.backtestProgress ""))
  | launchTick (loop : Nat)
  | launchReply (loop : Nat) (reply : Reply (.gatewayJob ""))
  | statusLook (loop : Nat)
  | statusReply (loop : Nat) (reply : Reply .status)
  | logLook (loop : Nat)
  | logReply (loop : Nat) (reply : Reply (.logs "" 0))
  /-- Starts to wait before it fires. -/
  | fireLater (trigger : Trigger) (delay : Nat)
  | fire (trigger : Trigger)

namespace Duty

/-- The turn of one and the same refresh loop. -/
def isLookOf (duty : Duty) (trigger : Trigger) : Bool :=
  match duty, trigger with
  | statusLook i, .status j => i == j
  | logLook i, .logs j => i == j
  | _, _ => false

end Duty

/-- A call that was made, and when. -/
structure CallRecord where
  time : Nat
  call : Call

structure Stage where
  polling : Polling
  now : Nat
  /-- What is to be done when, in the order in which it was entered. -/
  agenda : List (Nat × Duty)
  script : Script
  /-- The calls made, the last one first. -/
  calls : List CallRecord
  backtest : Option BacktestRunner
  gateway : Option Controller
  /-- The loops that the controller refreshes. -/
  refreshed : List Trigger
  status : Option StatusBoard
  logs : Option LogBoard

namespace Stage

/-- An empty stage. -/
def new (polling : Polling) (script : Script) : Stage where
  polling := polling
  now := 0
  agenda := []
  script := script
  calls := []
  backtest := none
  gateway := none
  refreshed := []
  status := none
  logs := none

/-- Enters a duty behind all others. -/
def enter (s : Stage) (time : Nat) (duty : Duty) : Stage :=
  { s with agenda := s.agenda ++ [(time, duty)] }

/-- Enters a duty of a loop for its next tick: ahead of all others if it is due already. -/
def enterTick (s : Stage) (due : Nat) (duty : Duty) : Stage :=
  if due ≤ s.now then { s with agenda := (s.now, duty) :: s.agenda } else s.enter due duty

/-- Makes a call: it is recorded and takes its reply from the script. -/
def place (s : Stage) (call : Call) : Stage × ScriptedReply :=
  let (reply, script) := s.script.next call.method
  ({ s with script, calls := ⟨s.now, call⟩ :: s.calls }, reply)

/-- Enters the arrival of a reply. -/
def enterReply (s : Stage) (reply : ScriptedReply) (duty : Duty) : Stage :=
  s.enterTick (s.now + reply.delay) duty

/-! ## Refresh loops -/

/-- The loop of a trigger. -/
def loop? (s : Stage) : Trigger → Option RefreshLoop
  | .status i => (s.status.bind (·.loops[i]?)).map (·.refresh)
  | .logs i => (s.logs.bind (·.loops[i]?)).map (·.refresh)

/-- The duty that is the turn of a loop. -/
def lookDuty : Trigger → Duty
  | .status i => .statusLook i
  | .logs i => .logLook i

/-- Enters the next tick of a loop that has parked, unless it stands on the agenda. -/
def enterPark (s : Stage) (trigger : Trigger) : Stage :=
  match s.loop? trigger with
  | some loop =>
    if loop.stage = .parked
        ∧ !s.agenda.any fun e => e.1 == loop.ticker.due && e.2.isLookOf trigger then
      s.enter loop.ticker.due (lookDuty trigger)
    else s
  | none => s

/-- Asks a loop for a refresh; a loop that it wakes gets its turn behind all others. -/
def fire (s : Stage) (trigger : Trigger) : Stage :=
  let wakes := (s.loop? trigger).any fun loop => loop.stage == .parked && !loop.woken
  let s := match trigger with
    | .status i => { s with status := s.status.map (·.fire i) }
    | .logs i => { s with logs := s.logs.map (·.fire i) }
  if wakes then s.enter s.now (lookDuty trigger) else s

/-- Has the monitors refreshed that the controller refreshes. -/
def refresh (s : Stage) : Refresh → Stage
  | .never => s
  | .now => s.refreshed.foldl fire s
  | .later delay => s.refreshed.foldl (fun s t => s.enter s.now (.fireLater t delay)) s

/-! ## Background work -/

/-- Enters the next tick of a backtest loop, if it goes on. -/
def enterBacktestTick (s : Stage) (i : Nat) : Stage :=
  match s.backtest.bind (·.loops[i]?) with
  | some loop =>
    if loop.stage = .waiting then s.enterTick loop.ticker.due (.backtestTick i) else s
  | none => s

/-- Enters the next tick of a launch loop, if it goes on. -/
def enterLaunchTick (s : Stage) (i : Nat) : Stage :=
  match s.gateway.bind (·.loops[i]?) with
  | some poll =>
    if poll.stage = .waiting then s.enterTick poll.ticker.due (.launchTick i) else s
  | none => s

/-- Does one duty. -/
def perform (s : Stage) : Duty → Stage
  | .backtestTick i =>
    match s.backtest.map (·.tick i s.now) with
    | some (runner, some jobId) =>
      let (s, reply) := { s with backtest := some runner }.place (.backtestProgress jobId)
      s.enterReply reply (.backtestReply i (reply.answer (.backtestProgress "")))
    | some (runner, none) => { s with backtest := some runner }
    | none => s
  | .backtestReply i answer =>
    let backtest := s.backtest.map fun runner => runner.reply i answer
    { s with backtest }.enterBacktestTick i
  | .launchTick i =>
    match s.gateway.map (·.tick i s.now) with
    | some (controller, some jobId) =>
      let (s, reply) := { s with gateway := some controller }.place (.gatewayJob jobId)
      s.enterReply reply (.launchReply i (reply.answer (.gatewayJob "")))
    | some (controller, none) => { s with gateway := some controller }
    | none => s
  | .launchReply i answer =>
    match s.gateway.map (·.reply i answer) with
    | some (controller, refresh) =>
      ({ s with gateway := some controller }.refresh refresh).enterLaunchTick i
    | none => s
  | .statusLook i =>
    match s.status.map (·.look i s.now) with
    | some (board, true) =>
      let (s, reply) := { s with status := some board }.place .status
      s.enterReply reply (.statusReply i (reply.answer .status))
    | some (board, false) => { s with status := some board }.enterPark (.status i)
    | none => s
  | .statusReply i answer =>
    let status := s.status.map fun board => board.reply i answer
    { s with status }.enterTick s.now (.statusLook i)
  | .logLook i =>
    match s.logs.map fun b => (b.maxLines, b.look i s.now) with
    | some (lines, board, some source) =>
      let (s, reply) := { s with logs := some board }.place (.logs source.query lines)
      s.enterReply reply (.logReply i (reply.answer (.logs "" 0)))
    | some (_, board, none) => { s with logs := some board }.enterPark (.logs i)
    | none => s
  | .logReply i answer =>
    let logs := s.logs.map fun board => board.reply i answer
    { s with logs }.enterTick s.now (.logLook i)
  | .fireLater trigger delay =>
    if delay = 0 then s.fire trigger else s.enter (s.now + delay) (.fire trigger)
  | .fire trigger => s.fire trigger

/-- The time of the next duty. -/
def nextTime? (s : Stage) : Option Nat := (s.agenda.map (·.1)).min?

/-- Takes the first duty of a time off the agenda. -/
def takeAt (time : Nat) : List (Nat × Duty) → Option (Duty × List (Nat × Duty))
  | [] => none
  | (t, duty) :: rest =>
    if t = time then some (duty, rest)
    else (takeAt time rest).map fun (found, rest) => (found, (t, duty) :: rest)

/-- Does the next duty if it is due by a moment. -/
def step? (s : Stage) (moment : Nat) : Option Stage := do
  let time ← s.nextTime?
  if moment < time then none
  let (duty, agenda) ← takeAt time s.agenda
  some ({ s with agenda, now := max s.now time }.perform duty)

/-- Does up to `fuel` duties that are due by a moment. -/
def settleFrom : Nat → Stage → Nat → Stage
  | 0, s, _ => s
  | fuel + 1, s, moment =>
    match s.step? moment with
    | some s => settleFrom fuel s moment
    | none => s

/-- More duties than can be due up to a moment: every loop does at most a few a millisecond. -/
def budget (s : Stage) (moment : Nat) : Nat := (moment - s.now + 1) * (64 + 16 * s.agenda.length)

/-- Does all that is due by a moment. -/
def settle (s : Stage) (moment : Nat) : Stage := settleFrom (s.budget moment) s moment

/-- Moves the clock and does all that is due up to and including its new time. -/
def advance (s : Stage) (ms : Nat) : Stage :=
  let moment := s.now + ms
  { s.settle moment with now := moment }

/-- Waits for a reply: all that is due before it arrives is done. -/
def await (s : Stage) (delay : Nat) : Stage :=
  if delay = 0 then s
  else
    let moment := s.now + delay
    { s.settle (moment - 1) with now := moment }

/-- Carries out a dialogue. -/
def converse {α : Type} (s : Stage) : Dialogue α → Stage × α
  | .done a => (s, a)
  | .ask call next =>
    let (s, reply) := s.place call
    (s.await reply.delay).converse (next (reply.answer call))

/-- How long a wait goes on before it is given up. -/
def patience : Nat := 600000

/-- Moves on from moment to moment, for at most `fuel` of them before a deadline, until something
has come about. -/
def waitFrom (done : Stage → Bool) (deadline : Nat) : Nat → Stage → Stage × Bool
  | 0, s => (s, false)
  | fuel + 1, s =>
    if done s then (s, true)
    else
      match s.nextTime? with
      | none => ({ s with now := deadline }, false)
      | some time =>
        let time := max s.now time
        if deadline ≤ time then ({ s with now := deadline }, false)
        else waitFrom done deadline fuel (s.settle time)

/-- Waits until something has come about, and tells whether it has. -/
def waitFor (s : Stage) (done : Stage → Bool) : Stage × Bool :=
  waitFrom done (s.now + patience) (patience + 2) s

end Stage

end StrategyDesk
