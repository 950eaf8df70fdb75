import StrategyDesk.Backtest.Job
import StrategyDesk.Polling.Loop

/-!
# The backtest runner

One backtest at a time: it is submitted, and a loop polls its progress until it has come to an
end or is cancelled. What is known of it stands in a slot.

## Main Definitions

* `BacktestState` — what the slot holds
* `BacktestLoop` — a loop that polls a job
* `BacktestRunner` — the slot and the loops
* `BacktestRunner.begin`, `BacktestRunner.conclude` — a submission, before and after its reply
* `BacktestRunner.cancel`
* `BacktestRunner.serve`, `BacktestRunner.ask`, `BacktestRunner.receive`,
  `BacktestRunner.publish` — the steps of a loop
* `BacktestRunner.tick`, `BacktestRunner.reply` — the steps that are taken at one go when nothing
  overtakes the loop
-/

namespace StrategyDesk

/-- What the slot holds. -/
inductive BacktestState where
  | idle
  | submitting
  | polling (job : BacktestJob)
  | completed (job : BacktestJob)
  | failed (jobId message : String)
deriving DecidableEq

namespace BacktestState

/-- A backtest is under way. -/
def isActive : BacktestState → Bool
  | submitting | polling _ => true
  | idle | completed _ | failed .. => false

/-- A backtest has come to an end. -/
def isTerminal : BacktestState → Bool
  | completed _ | failed .. => true
  | idle | submitting | polling _ => false

/-- Nothing is to be waited for. -/
def isSettled (s : BacktestState) : Bool := !s.isActive

def job? : BacktestState → Option BacktestJob
  | polling job | completed job => some job
  | idle | submitting | failed .. => none

end BacktestState

/-- A loop that polls the progress of a job. -/
abbrev BacktestLoop := PollLoop BacktestJob BacktestProgress

/-- What is said when the engine gives no reason for a failure. -/
def defaultFailure : String := "Backtest failed"

/-- The state that a job stands for after a report was entered. -/
def BacktestJob.state (job : BacktestJob) : BacktestState :=
  match job.status with
  | .completed => .completed job
  | .failed => .failed job.id (job.message.getD defaultFailure)
  | .submitted | .polling => .polling job

structure BacktestRunner extends PollLoops BacktestJob BacktestProgress where
  /-- The period of polling. -/
  interval : Nat
  slot : BacktestState
deriving DecidableEq

/-- The loop after the report that it holds was entered: it goes on until its job has come to an
end. -/
def BacktestLoop.enter (loop : BacktestLoop) : BacktestLoop :=
  match loop.stage with
  | .holding report =>
    let job := loop.subject.apply report
    { loop with subject := job, stage := if job.status.isTerminal then .returned else .waiting }
  | .waiting | .ticked | .asking | .returned => loop

namespace BacktestRunner

/-- A runner with nothing to do. -/
def new (interval : Nat) : BacktestRunner := { PollLoops.none with interval, slot := .idle }

/-- Lets the held loop go and cancels it. An active slot becomes idle; one at an end is kept. -/
def cancel (r : BacktestRunner) : BacktestRunner :=
  match r.held with
  | none => r
  | some _ =>
    { r with
      toPollLoops := r.release
      slot := if r.slot.isActive then .idle else r.slot }

/-- Makes ready for a submission, unless a backtest is running. -/
def begin (r : BacktestRunner) : Except Error BacktestRunner :=
  if r.isPolling ∧ r.slot.isActive then .error (.refused .backtestRunning)
  else .ok { r.cancel with slot := .submitting }

/-- Takes the reply to a submission. With a job id a loop starts to poll. -/
def conclude (r : BacktestRunner) (reply : Except Error String) (now : Nat) : BacktestRunner :=
  match reply with
  | .error _ => { r with slot := .idle }
  | .ok id =>
    let job := { BacktestJob.submitted id with status := .polling }
    { r with
      toPollLoops := r.start ⟨job, .start r.interval now, .first r.interval, false⟩
      slot := .polling job }

/-- Serves a tick of a loop. -/
def serve (r : BacktestRunner) (i now : Nat) : BacktestRunner :=
  { r with toPollLoops := r.update i (·.serve now) }

/-- A loop asks for the progress of its job. Tells the id of the job, if it does. -/
def ask (r : BacktestRunner) (i : Nat) : BacktestRunner × Option String :=
  let (loops, job) := r.toPollLoops.ask i
  ({ r with toPollLoops := loops }, job.map (·.id))

/-- A loop takes the reply to its question. -/
def receive (r : BacktestRunner) (i : Nat) (answer : Except Error BacktestProgress) :
    BacktestRunner :=
  { r with toPollLoops := r.update i (·.receive answer) }

/-- A loop enters the report that it holds, and shows its job in the slot unless it was
cancelled. -/
def publish (r : BacktestRunner) (i : Nat) : BacktestRunner :=
  match r.loops[i]? with
  | none => r
  | some loop =>
    match loop.stage with
    | .holding _ =>
      { r with
        toPollLoops := r.update i BacktestLoop.enter
        slot := if loop.cancelled then r.slot else (BacktestLoop.enter loop).subject.state }
    | .waiting | .ticked | .asking | .returned => r

/-- Serves a tick of a loop, which asks at once. -/
def tick (r : BacktestRunner) (i now : Nat) : BacktestRunner × Option String :=
  (r.serve i now).ask i

/-- A loop takes the reply to its question, and publishes it at once. -/
def reply (r : BacktestRunner) (i : Nat) (answer : Except Error BacktestProgress) :
    BacktestRunner :=
  (r.receive i answer).publish i

end BacktestRunner

end StrategyDesk
