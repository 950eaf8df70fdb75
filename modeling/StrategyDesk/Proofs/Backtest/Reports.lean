import StrategyDesk.Proofs.Backtest.Course
import StrategyDesk.Proofs.Number.Ranges

/-!
# What reports leave in a job

A report need not speak of every part of a job. Each part is what the last of the reports said of it
that spoke of it at all; only the status is that of the last report.

## Main Definitions

* `lastSaid` — what the last report says of something that says anything of it
* `BacktestProgress.delivered`, `BacktestProgress.presented` — the result that a report brings, and
  the percentage that it stands for
* `BacktestJob.Tells` — what reports tell of a job, part by part

## Main Statements

* `BacktestJob.apply_eq` — what one report makes of a job, all parts at once
* `BacktestJob.foldl_part` — a part that reports replace or leave is what was said of it last
* `BacktestJob.reports_tell` — what reports leave in a job
-/

namespace StrategyDesk

variable {α : Type}

/-! ## What a report says -/

/-- What the last report says of something that says anything of it. -/
def lastSaid (entry : BacktestProgress → Option α) (reports : List BacktestProgress) : Option α :=
  (reports.filterMap entry).getLast?

@[simp] theorem lastSaid_nil (entry : BacktestProgress → Option α) : lastSaid entry [] = none := rfl

@[simp] theorem lastSaid_concat (entry : BacktestProgress → Option α)
    (reports : List BacktestProgress) (report : BacktestProgress) :
    lastSaid entry (reports ++ [report]) = (entry report).or (lastSaid entry reports) := by
  unfold lastSaid
  rw [List.filterMap_append, List.getLast?_append]
  cases said : entry report <;> simp [said]

theorem lastSaid_map {β : Type} (f : α → β) (entry : BacktestProgress → Option α)
    (reports : List BacktestProgress) :
    lastSaid (fun report => (entry report).map f) reports = (lastSaid entry reports).map f := by
  unfold lastSaid
  rw [← List.map_filterMap, List.getLast?_map]

namespace BacktestProgress

/-- The result that a report brings: that of a completion. -/
def delivered (report : BacktestProgress) : Option BacktestResult :=
  if report.status = "completed" then report.result else none

/-- The percentage that a report stands for: all of it once it brings a result, whatever else it
carries. -/
def presented (report : BacktestProgress) : Option Nat :=
  if report.delivered.isSome then some 100 else report.progress.map Binary64.nearestPercent

/-- The status that a report puts a job into. -/
def outcome (report : BacktestProgress) : JobStatus :=
  if report.delivered.isSome then .completed
  else if report.status = "error" then .failed
  else .polling

theorem isSome_delivered_iff (report : BacktestProgress) :
    report.delivered.isSome = true ↔
      report.status = "completed" ∧ report.result.isSome = true := by
  unfold delivered
  split
  case isTrue completed => simp [completed]
  case isFalse notCompleted => simp [notCompleted]

theorem outcome_eq_completed_iff (report : BacktestProgress) :
    report.outcome = .completed ↔ report.status = "completed" ∧ report.result.isSome = true := by
  rw [← isSome_delivered_iff]
  unfold outcome
  split
  case isTrue delivers => simp [delivers]
  case isFalse delivers => split <;> simp [delivers]

theorem outcome_eq_failed_iff (report : BacktestProgress) :
    report.outcome = .failed ↔ report.status = "error" := by
  unfold outcome
  split
  case isTrue delivers => simp [(isSome_delivered_iff report).mp delivers]
  case isFalse => split <;> simp [*]

theorem outcome_ne_submitted (report : BacktestProgress) : report.outcome ≠ .submitted := by
  unfold outcome
  split
  · simp
  · split <;> simp

theorem outcome_eq_polling_iff (report : BacktestProgress) : report.outcome = .polling ↔
    ¬(report.status = "completed" ∧ report.result.isSome = true) ∧ report.status ≠ "error" := by
  rw [← outcome_eq_completed_iff, ne_eq, ← outcome_eq_failed_iff]
  have submitted := report.outcome_ne_submitted
  cases outcome : report.outcome with
  | submitted => exact absurd outcome submitted
  | polling | completed | failed => simp

end BacktestProgress

namespace BacktestJob

variable (job : BacktestJob) (report : BacktestProgress)

/-! ## One report -/

/-- **What one report makes of a job**, all parts at once. -/
theorem apply_eq : job.apply report =
    { id := job.id
      status := report.outcome
      phase := report.phase.or job.phase
      progress := report.presented.getD job.progress
      message := report.message.or job.message
      elapsedSeconds := (report.elapsed.map Binary64.raised).getD job.elapsedSeconds
      result := report.delivered.or job.result } := by
  have duration : report.elapsed.map (Binary64.zero false).max =
      report.elapsed.map Binary64.raised := by
    congr 1
    exact funext Binary64.zero_max_eq_raised
  have share : report.progress.map percent = report.progress.map Binary64.nearestPercent := by
    congr 1
    exact funext Binary64.roundWord_clampPercent
  unfold apply record BacktestProgress.outcome BacktestProgress.presented BacktestProgress.delivered
  rw [duration, share]
  by_cases completed : report.status = "completed"
  · cases result : report.result with
    | some result => simp [completed]
    | none => simp [completed]
  · by_cases error : report.status = "error"
    · simp [error]
    · simp [completed, error]

/-! ## Reports one after the other -/

/-- **A part that reports replace or leave is what was said of it last.** -/
theorem foldl_part (part : BacktestJob → Option α) {entry : BacktestProgress → Option α}
    (enters : ∀ job report, part (apply job report) = (entry report).or (part job))
    (reports : List BacktestProgress) :
    part (reports.foldl apply job) = (lastSaid entry reports).or (part job) := by
  induction reports using List.reverseRecOn with
  | nil => rfl
  | append_singleton reports report ih =>
      rw [List.foldl_concat, enters, ih, lastSaid_concat, Option.or_assoc]

/-- The same of a part that is never missing. -/
theorem foldl_part_getD (part : BacktestJob → α) {entry : BacktestProgress → Option α}
    (enters : ∀ job report, part (apply job report) = (entry report).getD (part job))
    (reports : List BacktestProgress) :
    part (reports.foldl apply job) = (lastSaid entry reports).getD (part job) := by
  have entersSome (job : BacktestJob) (report : BacktestProgress) :
      some (part (apply job report)) = (entry report).or (some (part job)) := by
    rw [enters]
    cases entry report <;> rfl
  have same := foldl_part job (fun job => some (part job)) entersSome reports
  cases said : lastSaid entry reports with
  | none => simpa [said] using same
  | some a => simpa [said] using same

/-- The message of a job is the last one of the reports, after the one that it had before them. -/
theorem foldl_message (reports : List BacktestProgress) :
    (reports.foldl apply job).message = (lastSaid (·.message) reports).or job.message :=
  foldl_part job BacktestJob.message (fun job report => by rw [apply_eq]) reports

theorem foldl_id (reports : List BacktestProgress) : (reports.foldl apply job).id = job.id := by
  induction reports using List.reverseRecOn with
  | nil => rfl
  | append_singleton reports report ih => rw [List.foldl_concat, apply_id, ih]

/-- What is entered as a percentage or a duration is one. -/
theorem lastSaid_presented_le {reports : List BacktestProgress} {share : Nat}
    (said : lastSaid BacktestProgress.presented reports = some share) : share ≤ 100 := by
  obtain ⟨report, -, presented⟩ := List.mem_filterMap.mp (List.mem_of_getLast? said)
  unfold BacktestProgress.presented at presented
  split at presented
  · exact (Option.some.inj presented).ge
  · obtain ⟨x, -, rfl⟩ := Option.map_eq_some_iff.mp presented
    exact x.nearestPercent_le

/-- The status is that of the last report. -/
theorem foldl_status (reports : List BacktestProgress) :
    (reports.foldl apply job).status =
      (reports.getLast?.map BacktestProgress.outcome).getD job.status := by
  cases reports using List.reverseRecOn with
  | nil => rfl
  | append_singleton reports report =>
      rw [List.foldl_concat, apply_eq, List.getLast?_concat]
      rfl

/-! ## All parts of a job -/

/-- What reports tell of a job from its submission on, part by part. -/
structure Tells (id : String) (reports : List BacktestProgress) (job : BacktestJob) : Prop where
  id : job.id = id
  phase : job.phase = lastSaid (·.phase) reports
  message : job.message = lastSaid (·.message) reports
  progress : job.progress = (lastSaid BacktestProgress.presented reports).getD 0
  progress_le : job.progress ≤ 100
  elapsed :
    job.elapsedSeconds = ((lastSaid (·.elapsed) reports).map Binary64.raised).getD (.zero false)
  elapsed_nonneg : job.elapsedSeconds.isNegative = false ∧ job.elapsedSeconds.isNaN = false
  result : job.result = lastSaid BacktestProgress.delivered reports
  submitted_iff : job.status = .submitted ↔ reports = []
  completed_iff : job.status = .completed ↔
    ∃ last, reports.getLast? = some last ∧ last.status = "completed" ∧ last.result.isSome = true
  failed_iff : job.status = .failed ↔
    ∃ last, reports.getLast? = some last ∧ last.status = "error"
  polling_iff : job.status = .polling ↔
    ∃ last, reports.getLast? = some last ∧
      ¬(last.status = "completed" ∧ last.result.isSome = true) ∧ last.status ≠ "error"

/-- The status that reports leave is one that the last report puts a job into. -/
theorem foldl_status_eq_iff {reports : List BacktestProgress} (status : JobStatus)
    (other : job.status ≠ status) : (reports.foldl apply job).status = status ↔
      ∃ last, reports.getLast? = some last ∧ last.outcome = status := by
  rw [foldl_status]
  cases reports.getLast? with
  | none => simp [other]
  | some last => simp

/-- **What reports leave in a job.** -/
theorem reports_tell (id : String) (reports : List BacktestProgress) :
    (reports.foldl apply (submitted id)).Tells id reports := by
  have progress : (reports.foldl apply (submitted id)).progress =
      (lastSaid BacktestProgress.presented reports).getD 0 :=
    foldl_part_getD _ BacktestJob.progress (fun job report => by rw [apply_eq]) reports
  have elapsed : (reports.foldl apply (submitted id)).elapsedSeconds =
      ((lastSaid (·.elapsed) reports).map Binary64.raised).getD (.zero false) := by
    rw [← lastSaid_map]
    exact foldl_part_getD _ BacktestJob.elapsedSeconds (fun job report => by rw [apply_eq]) reports
  exact
    { id := foldl_id _ reports
      phase := by
        rw [foldl_part _ BacktestJob.phase (fun job report => by rw [apply_eq]) reports]
        exact Option.or_none
      message := by
        rw [foldl_message]
        exact Option.or_none
      progress
      progress_le := by
        rw [progress]
        cases said : lastSaid BacktestProgress.presented reports with
        | none => exact Nat.zero_le _
        | some share => exact lastSaid_presented_le said
      elapsed
      elapsed_nonneg := by
        rw [elapsed]
        cases lastSaid (·.elapsed) reports with
        | none => exact ⟨rfl, rfl⟩
        | some seconds => exact seconds.raised_nonneg
      result := by
        rw [foldl_part _ BacktestJob.result (fun job report => by rw [apply_eq]) reports]
        exact Option.or_none
      submitted_iff := by
        rw [foldl_status]
        cases reports using List.reverseRecOn with
        | nil => simp [submitted]
        | append_singleton reports report => simp [report.outcome_ne_submitted]
      completed_iff := by
        rw [foldl_status_eq_iff _ .completed (by simp [submitted])]
        simp only [BacktestProgress.outcome_eq_completed_iff]
      failed_iff := by
        rw [foldl_status_eq_iff _ .failed (by simp [submitted])]
        simp only [BacktestProgress.outcome_eq_failed_iff]
      polling_iff := by
        rw [foldl_status_eq_iff _ .polling (by simp [submitted])]
        simp only [BacktestProgress.outcome_eq_polling_iff] }

end BacktestJob

end StrategyDesk
