import StrategyDesk.Exchange.Backtest

/-!
# Backtest jobs

The record of a backtest on the engine, and how reports are entered into it.

## Main Definitions

* `BacktestJob`, `BacktestJob.submitted`
* `BacktestJob.apply` — enters one report
-/

namespace StrategyDesk

inductive JobStatus where
  | submitted
  | polling
  | completed
  | failed
deriving DecidableEq, Repr

namespace JobStatus

def name : JobStatus → String
  | submitted => "submitted"
  | polling => "polling"
  | completed => "completed"
  | failed => "failed"

/-- No more reports are expected. -/
def isTerminal : JobStatus → Bool
  | completed | failed => true
  | submitted | polling => false

end JobStatus

/-- What is known of a backtest. -/
structure BacktestJob where
  id : String
  status : JobStatus
  phase : Option String
  /-- In percent. -/
  progress : Nat
  message : Option String
  elapsedSeconds : Binary64
  result : Option BacktestResult
deriving DecidableEq

namespace BacktestJob

/-- A job of which nothing but the id is known. -/
def submitted (id : String) : BacktestJob where
  id := id
  status := .submitted
  phase := none
  progress := 0
  message := none
  elapsedSeconds := .zero false
  result := none

/-- A share of progress as a whole percentage. -/
def percent (progress : Binary64) : Nat := progress.clampPercent.roundWord 8

/-- Enters what a report carries; what it does not carry stays. -/
def record (job : BacktestJob) (report : BacktestProgress) : BacktestJob :=
  { job with
    phase := report.phase.or job.phase
    progress := (report.progress.map percent).getD job.progress
    message := report.message.or job.message
    elapsedSeconds := (report.elapsed.map (Binary64.zero false).max).getD job.elapsedSeconds }

/-- Enters a report. A report of completion ends the job only when it carries a result. -/
def apply (job : BacktestJob) (report : BacktestProgress) : BacktestJob :=
  let job := job.record report
  if report.status = "completed" then
    match report.result with
    | some result => { job with result := some result, progress := 100, status := .completed }
    | none => { job with status := .polling }
  else if report.status = "error" then { job with status := .failed }
  else { job with status := .polling }

end BacktestJob

end StrategyDesk
