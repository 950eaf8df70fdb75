import StrategyDesk.Exchange.Call
import StrategyDesk.Gateway.Launch
import StrategyDesk.Polling.Loop
import StrategyDesk.Settings.Basic

/-!
# The process controller

Carries out control actions, and polls a launch of the gateway until it has come to an end. What
is known of the gateway stands in a slot. After most actions, and when a launch has come to an
end, the monitors are refreshed.

## Main Definitions

* `LaunchPoll` — a loop that polls a launch
* `Controller` — the slot and the loops
* `Controller.begin`, `Controller.conclude` — an action, before and after its reply
* `Controller.serve`, `Controller.ask`, `Controller.receive`, `Controller.publish`,
  `Controller.announce` — the steps of a loop
* `Controller.tick`, `Controller.reply` — the steps that are taken at one go when nothing overtakes
  the loop
* `Refresh` — when the monitors are to be refreshed

## Design Notes

A loop looks at its mark and writes the slot in one step, since it holds the lock of the slot from
the look to the write: whoever cancels it in between and then turns to the slot comes after it.  By
the time that it has the monitors refreshed it has given the lock back, and it does not look at its
mark again.  So this is a step of its own, and others may overtake the loop before it.
-/

namespace StrategyDesk

/-- A loop that polls the launch with an id. -/
abbrev LaunchPoll := PollLoop String GatewayReport

/-- When the monitors are to be refreshed. -/
inductive Refresh where
  | never
  | now
  /-- After a delay. -/
  | later (delay : Nat)
deriving DecidableEq, Repr

/-- Periods and delays of the controller. -/
structure Cadence where
  poll : Nat
  /-- From an action to the refresh after it. -/
  refreshDelay : Nat
  /-- From the end of a launch script to the refresh after it. -/
  grace : Nat
deriving DecidableEq, Repr

def Cadence.of (p : Polling) : Cadence :=
  ⟨p.gatewayJobMs.toNat, p.refreshDelayMs.toNat, p.gatewayGraceMs.toNat⟩

structure Controller extends PollLoops String GatewayReport where
  cadence : Cadence
  slot : GatewayState
  /-- What a loop has shown the end of its launch for, but has yet to have refreshed. -/
  owes : Nat → Refresh

/-- The call of an action. -/
def ControlAction.call : ControlAction → Call
  | gatewayStart => .gatewayStart
  | gatewayStop => .gatewayStop
  | gatewayLogin => .gatewayLogin
  | pipelineStart config dryRun => .pipelineStart ⟨config, dryRun⟩
  | pipelineStop => .pipelineStop

/-- Every action is answered by a control reply. -/
def ControlAction.readReply : (action : ControlAction) → Reply action.call →
    Except Error ControlReply
  | gatewayStart, r | gatewayStop, r | gatewayLogin, r | pipelineStart .., r | pipelineStop, r => r

/-- The loop after the report that it holds was entered: it goes on until its launch has come to an
end, and returns if it was cancelled. -/
def LaunchPoll.enter (poll : LaunchPoll) : LaunchPoll :=
  match poll.stage with
  | .holding report =>
    let ends := poll.cancelled || (report.state poll.subject).isTerminal
    { poll with stage := if ends then .returned else .waiting }
  | .waiting | .ticked | .asking | .returned => poll

namespace Controller

/-- A controller with nothing to do. -/
def new (cadence : Cadence) : Controller :=
  { PollLoops.none with cadence, slot := .idle, owes := fun _ => .never }

/-- Lets the held loop go and cancels it. -/
def cancelPoll (c : Controller) : Controller := { c with toPollLoops := c.release }

/-- Makes ready for an action. Stopping the gateway ends a launch at once; starting the pipeline
takes the name of a config. -/
def begin (c : Controller) : ControlAction → Except Error Controller
  | .gatewayStop => .ok { c.cancelPoll with slot := .idle }
  | .pipelineStart config _ =>
    if isBlankText config then .error (.refused .noConfigSelected) else .ok c
  | .gatewayStart | .gatewayLogin | .pipelineStop => .ok c

/-- The refresh that follows an action. -/
def refreshAfter (c : Controller) : Refresh := .later c.cadence.refreshDelay

/-- Starts to poll a launch. The first read is due one period from now. -/
def startPoll (c : Controller) (jobId : String) (now : Nat) : Controller :=
  let ticker := (Ticker.start c.cadence.poll now).serve now
  { c with
    toPollLoops := c.start ⟨jobId, ticker, .first c.cadence.poll, false⟩
    slot := .starting jobId startingText }

/-- Takes the answer to a start of the gateway. -/
def concludeStart (c : Controller) (answer : ControlReply) (now : Nat) :
    Controller × ControlOutcome × Refresh :=
  match answer.launch with
  | .alreadyRunning pid message => ({ c with slot := .running pid }, ⟨true, message⟩, .never)
  | .launched jobId => (c.startPoll jobId now, ⟨true, "Gateway launch initiated"⟩, .never)
  | .other outcome => (c, outcome, c.refreshAfter)

/-- Takes the reply to an action. -/
def conclude (c : Controller) (action : ControlAction) (reply : Except Error ControlReply)
    (now : Nat) : Controller × Except Error ControlOutcome × Refresh :=
  match reply with
  | .error e => (c, .error e, .never)
  | .ok answer =>
    match action with
    | .gatewayStart =>
      let (c, outcome, refresh) := c.concludeStart answer now
      (c, .ok outcome, refresh)
    | .gatewayStop | .gatewayLogin | .pipelineStart .. | .pipelineStop =>
      (c, .ok answer.outcome, c.refreshAfter)

/-- Serves a tick of a loop. -/
def serve (c : Controller) (i now : Nat) : Controller :=
  { c with toPollLoops := c.update i (·.serve now) }

/-- A loop asks for a report on its launch. Tells the id of the launch, if it does. -/
def ask (c : Controller) (i : Nat) : Controller × Option String :=
  let (loops, jobId) := c.toPollLoops.ask i
  ({ c with toPollLoops := loops }, jobId)

/-- A loop takes the reply to its question. -/
def receive (c : Controller) (i : Nat) (answer : Except Error GatewayReport) : Controller :=
  { c with toPollLoops := c.update i (·.receive answer) }

/-- The refresh that follows the end of a launch. -/
def refreshOn (c : Controller) : GatewayState → Refresh
  | .running _ => .now
  | .scriptExited _ => .later c.cadence.grace
  | .idle | .starting .. | .failed _ => .never

/-- A loop owes a refresh, in place of what it has owed. -/
def owe (c : Controller) (i : Nat) (refresh : Refresh) : Controller :=
  { c with owes := fun j => if j = i then refresh else c.owes j }

/-- A loop shows in the slot what the report that it holds makes of its launch, and goes on until
the launch has come to an end. The refresh after the end is left to be announced. A cancelled loop
returns. -/
def publish (c : Controller) (i : Nat) : Controller :=
  match c.loops[i]? with
  | none => c
  | some poll =>
    match poll.stage with
    | .holding report =>
      let loops := c.update i LaunchPoll.enter
      if poll.cancelled then { c with toPollLoops := loops }
      else
        let state := report.state poll.subject
        { c with toPollLoops := loops, slot := state }.owe i (c.refreshOn state)
    | .waiting | .ticked | .asking | .returned => c

/-- A loop has refreshed what it owes, whether it was cancelled or not. -/
def announce (c : Controller) (i : Nat) : Controller × Refresh := (c.owe i .never, c.owes i)

/-- Serves a tick of a loop, which asks at once. -/
def tick (c : Controller) (i now : Nat) : Controller × Option String := (c.serve i now).ask i

/-- A loop takes the reply to its question, and publishes and announces it at once. -/
def reply (c : Controller) (i : Nat) (answer : Except Error GatewayReport) :
    Controller × Refresh :=
  ((c.receive i answer).publish i).announce i

end Controller

end StrategyDesk
