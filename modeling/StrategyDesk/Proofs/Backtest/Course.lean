import StrategyDesk.Proofs.Backtest.Job

/-!
# The course of a job

The states that a job goes through while reports are entered into it one after the other.  It ends
with the first report that ends the job; replies that are errors leave no trace in it.

## Main Definitions

* `BacktestProgress.isFinal`, `endsJob`, `reportsOf` — reports and replies that end a job, and the
  reports among replies
* `heard` — the replies up to the first one that ends the job
* `BacktestJob.course` — the states of a job

## Main Statements

* `BacktestJob.course_concat` — the course takes one more report
* `BacktestJob.course_heard` — it sees nothing of what comes after the end of the job
-/

namespace StrategyDesk

/-! ## Reports and replies -/

/-- The report ends a job: it tells of an error, or of a completion with its result. -/
def BacktestProgress.isFinal (report : BacktestProgress) : Bool :=
  report.status == "error" || (report.status == "completed" && report.result.isSome)

/-- The reply ends a job. No error does. -/
def endsJob : Except Error BacktestProgress → Bool
  | .ok report => report.isFinal
  | .error _ => false

/-- The reports among replies. -/
def reportsOf (replies : List (Except Error BacktestProgress)) : List BacktestProgress :=
  replies.filterMap Except.toOption

/-- The replies up to the first one that ends the job. -/
def heard : List (Except Error BacktestProgress) → List (Except Error BacktestProgress)
  | [] => []
  | reply :: rest => if endsJob reply then [reply] else reply :: heard rest

@[simp] theorem reportsOf_append (first later : List (Except Error BacktestProgress)) :
    reportsOf (first ++ later) = reportsOf first ++ reportsOf later :=
  List.filterMap_append

/-- Replies that do not end the job are all taken. -/
theorem heard_append {first : List (Except Error BacktestProgress)}
    (goesOn : ∀ reply ∈ first, endsJob reply = false)
    (later : List (Except Error BacktestProgress)) :
    heard (first ++ later) = first ++ heard later := by
  induction first with
  | nil => rfl
  | cons reply first ih =>
      have others := fun r member => goesOn r (List.mem_cons_of_mem reply member)
      simp [heard, goesOn reply List.mem_cons_self, ih others]

/-- Reports that are among replies none of which ends the job do not end it either. -/
theorem isFinal_eq_false_of_mem_reportsOf {replies : List (Except Error BacktestProgress)}
    (goesOn : ∀ reply ∈ replies, endsJob reply = false) {report : BacktestProgress}
    (among : report ∈ reportsOf replies) : report.isFinal = false := by
  obtain ⟨reply, member, same⟩ := List.mem_filterMap.mp among
  cases reply with
  | error e => cases same
  | ok other =>
      obtain rfl := Option.some.inj same
      exact goesOn _ member

/-! ## The course -/

namespace BacktestJob

/-- The states that a job goes through as reports are entered, up to the one that ends it. -/
def course (job : BacktestJob) : List BacktestProgress → List BacktestState
  | [] => []
  | report :: rest =>
    let next := job.apply report
    if report.status = "error" then [.failed next.id (next.message.getD defaultFailure)]
    else if report.status = "completed" ∧ report.result.isSome then [.completed next]
    else .polling next :: next.course rest

variable (job : BacktestJob) (report : BacktestProgress)

/-- A job ends with the reports that end a job. -/
theorem apply_isTerminal : (job.apply report).status.isTerminal = report.isFinal := by
  unfold apply BacktestProgress.isFinal
  split
  case isTrue completed =>
      split
      case h_1 result carried => simp [completed, carried, JobStatus.isTerminal]
      case h_2 missing => simp [completed, missing, JobStatus.isTerminal]
  case isFalse notCompleted =>
      split
      case isTrue error => simp [error, JobStatus.isTerminal]
      case isFalse notError => simp [notCompleted, notError, JobStatus.isTerminal]

/-- The course ends with a report that ends the job. -/
theorem course_cons_of_final (final : report.isFinal = true) (rest : List BacktestProgress) :
    job.course (report :: rest) = [(job.apply report).state] := by
  simp only [BacktestProgress.isFinal, Bool.or_eq_true, beq_iff_eq, Bool.and_eq_true] at final
  rcases final with error | ⟨completed, carried⟩
  · simp [course, apply, state, error]
  · obtain ⟨result, carried⟩ := Option.isSome_iff_exists.mp carried
    simp [course, apply, state, completed, carried]

theorem course_cons_of_not_final (goesOn : report.isFinal = false)
    (rest : List BacktestProgress) :
    job.course (report :: rest) = (job.apply report).state :: (job.apply report).course rest := by
  have shown : (job.apply report).state = .polling (job.apply report) :=
    state_of_goesOn _ (by rw [apply_isTerminal, goesOn])
  simp only [BacktestProgress.isFinal, Bool.or_eq_false_iff, beq_eq_false_iff_ne,
    Bool.and_eq_false_imp, beq_iff_eq] at goesOn
  obtain ⟨notError, unfinished⟩ := goesOn
  rw [course, if_neg notError, if_neg, shown]
  rintro ⟨completed, carried⟩
  rw [unfinished completed] at carried
  cases carried

/-- **The course takes one more report**, when none before it ended the job. -/
theorem course_concat {entered : List BacktestProgress}
    (goesOn : ∀ earlier ∈ entered, earlier.isFinal = false) :
    job.course (entered ++ [report]) =
      job.course entered ++ [((entered.foldl apply job).apply report).state] := by
  induction entered generalizing job with
  | nil =>
      cases final : report.isFinal with
      | true => exact course_cons_of_final job report final []
      | false => exact course_cons_of_not_final job report final []
  | cons earlier entered ih =>
      have first := goesOn earlier List.mem_cons_self
      have others := fun r member => goesOn r (List.mem_cons_of_mem earlier member)
      rw [List.cons_append, course_cons_of_not_final job earlier first,
        course_cons_of_not_final job earlier first, ih (job.apply earlier) others]
      rfl

/-- The course sees nothing of the replies after the one that ends the job. -/
theorem course_heard (replies : List (Except Error BacktestProgress)) :
    job.course (reportsOf (heard replies)) = job.course (reportsOf replies) := by
  induction replies generalizing job with
  | nil => rfl
  | cons reply rest ih =>
      cases reply with
      | error e => exact ih job
      | ok report =>
          have reports : reportsOf (.ok report :: rest) = report :: reportsOf rest := rfl
          rw [reports]
          cases final : report.isFinal with
          | true =>
              have last : reportsOf (heard (.ok report :: rest)) = [report] := by
                simp [heard, endsJob, final, reportsOf, Except.toOption]
              rw [last, course_cons_of_final job report final,
                course_cons_of_final job report final]
          | false =>
              have kept : reportsOf (heard (.ok report :: rest)) =
                  report :: reportsOf (heard rest) := by
                simp [heard, endsJob, final, reportsOf, Except.toOption]
              rw [kept, course_cons_of_not_final job report final, ih (job.apply report),
                course_cons_of_not_final job report final]

/-- The course does not see whether the job was polled before the first report. -/
theorem course_started (id : String) (reports : List BacktestProgress) :
    (started id).course reports = (submitted id).course reports := by
  cases reports with
  | nil => rfl
  | cons report rest => rfl

end BacktestJob

end StrategyDesk
