import Mathlib.Data.List.Induction
import StrategyDesk.Backtest.Runner

/-!
# Jobs that reports are entered into

What a job looks like to the loop that polls it, and what a slot looks like that shows such a job.

## Main Definitions

* `BacktestJob.started` — a job as it is when a loop starts to poll it
* `BacktestJob.after` — the job after some reports
* `BacktestJob.Sound` — a job has a result exactly when it is complete
* `BacktestState.jobId?` — the id of the job that a slot names
* `BacktestState.Sound` — a slot shows a job under the name of its status

## Main Statements

* `BacktestJob.apply_sound` — a report makes a sound job of one that has no result yet
-/

namespace StrategyDesk

namespace BacktestJob

/-- A job as it is when a loop starts to poll it. -/
def started (id : String) : BacktestJob := { submitted id with status := .polling }

/-- A job after reports that were entered one after the other. -/
def after (id : String) (reports : List BacktestProgress) : BacktestJob :=
  reports.foldl apply (started id)

/-- A job that is polled has no result yet; a complete one has all of it. -/
def Sound (job : BacktestJob) : Prop :=
  match job.status with
  | .submitted => False
  | .polling => job.result = none
  | .completed => job.result.isSome = true ∧ job.progress = 100
  | .failed => True

variable (job : BacktestJob) (report : BacktestProgress)

theorem started_sound (id : String) : (started id).Sound := rfl

@[simp] theorem apply_id : (job.apply report).id = job.id := by
  unfold apply
  split
  · split <;> rfl
  · split <;> rfl

@[simp] theorem after_nil (id : String) : after id [] = started id := rfl

theorem after_concat (id : String) (reports : List BacktestProgress) :
    after id (reports ++ [report]) = (after id reports).apply report := by
  simp [after]

@[simp] theorem after_id (id : String) (reports : List BacktestProgress) :
    (after id reports).id = id := by
  induction reports using List.reverseRecOn with
  | nil => rfl
  | append_singleton reports report ih => rw [after_concat, apply_id, ih]

/-- A report makes a sound job of one that has no result yet. -/
theorem apply_sound (noResult : job.result = none) : (job.apply report).Sound := by
  have kept : (job.record report).result = none := noResult
  unfold apply
  split
  · split
    · exact ⟨rfl, rfl⟩
    · exact kept
  · split
    · trivial
    · exact kept

theorem result_eq_none_of_sound (sound : job.Sound) (goesOn : job.status.isTerminal = false) :
    job.result = none := by
  unfold Sound at sound
  cases status : job.status with
  | polling => simpa [status] using sound
  | submitted => simp [status] at sound
  | completed | failed => simp [status, JobStatus.isTerminal] at goesOn

/-- The slot names the job that it shows. -/
theorem state_eq_polling {shown : BacktestJob} (sound : job.Sound)
    (equal : job.state = .polling shown) : shown = job ∧ job.status = .polling := by
  unfold state at equal
  split at equal
  case h_3 submitted => simp [Sound, submitted] at sound
  case h_4 polling => exact ⟨(BacktestState.polling.inj equal).symm, polling⟩
  all_goals cases equal

/-- A sound job that goes on is shown as polled. -/
theorem state_of_goesOn (goesOn : job.status.isTerminal = false) : job.state = .polling job := by
  unfold state
  split
  case h_1 completed => simp [completed, JobStatus.isTerminal] at goesOn
  case h_2 failed => simp [failed, JobStatus.isTerminal] at goesOn
  all_goals rfl

theorem state_ne_submitting : job.state ≠ .submitting := by
  unfold state
  split <;> simp

end BacktestJob

/-- The id of the job that a slot names, if it names one. -/
def BacktestState.jobId? : BacktestState → Option String
  | polling job | completed job => some job.id
  | failed id _ => some id
  | idle | submitting => none

@[simp] theorem BacktestJob.state_jobId? (job : BacktestJob) : job.state.jobId? = some job.id := by
  unfold BacktestJob.state
  split <;> rfl

/-- A slot shows a job under the name of its status, and a complete one with its result. -/
def BacktestState.Sound : BacktestState → Prop
  | polling job => job.status = .polling ∧ job.result = none
  | completed job => job.status = .completed ∧ job.result.isSome = true ∧ job.progress = 100
  | idle | submitting | failed .. => True

theorem BacktestJob.state_sound {job : BacktestJob} (sound : job.Sound) : job.state.Sound := by
  unfold BacktestJob.Sound at sound
  unfold BacktestJob.state
  split
  case h_1 completed => simpa [BacktestState.Sound, completed] using sound
  case h_2 => trivial
  case h_3 submitted => simp [submitted] at sound
  case h_4 polling => simpa [BacktestState.Sound, polling] using sound

end StrategyDesk
