import StrategyDesk.Proofs.Backtest.Reports
import StrategyDesk.Proofs.Backtest.StaleWrites
import StrategyDesk.Proofs.Session.Polls
import StrategyDesk.Session.Desk

/-!
# The message of a failed backtest

A failed backtest is shown with the last message that any of its reports carried, which need not be
one of the report that tells of the failure. Where that report has no message, what was said of the
work in progress stands in place of the default.

## Main Definitions

* `BacktestProgress.reason` — what a report of a failure has to say, or the default
* `failureMessage` — the message with which a failure is shown after earlier reports

## Main Statements

* `failureMessage_eq_reason_iff` — when the message is what the last report has to say
* `Desk.course_progress_of_error` — the message with which a backtest in a terminal ends
* `BacktestExecution.failure_message_iff` — the message that a loop shows
-/

namespace StrategyDesk

/-! ## The message -/

/-- What a report of a failure has to say: its message, or the default. -/
def BacktestProgress.reason (report : BacktestProgress) : String :=
  report.message.getD defaultFailure

/-- The message with which a failure is shown that a report tells of after earlier ones. -/
def failureMessage (earlier : List BacktestProgress) (report : BacktestProgress) : String :=
  (report.message.or (lastSaid (·.message) earlier)).getD defaultFailure

/-- **The message is what the last report has to say** exactly if that report has a message, or if
no other message than the default came before it. -/
theorem failureMessage_eq_reason_iff (earlier : List BacktestProgress)
    (report : BacktestProgress) : failureMessage earlier report = report.reason ↔
      report.message.isSome = true ∨
        ∀ told, lastSaid (·.message) earlier = some told → told = defaultFailure := by
  unfold failureMessage BacktestProgress.reason
  cases report.message with
  | some own => simp
  | none => cases lastSaid (·.message) earlier <;> simp

namespace BacktestJob

variable {report : BacktestProgress}

/-- A report of an error ends a job with a message. -/
theorem apply_state_of_error (job : BacktestJob) (error : report.status = "error") :
    (job.apply report).state =
      .failed job.id ((report.message.or job.message).getD defaultFailure) := by
  rw [apply_eq, report.outcome_eq_failed_iff.mpr error]
  rfl

theorem after_message (id : String) (reports : List BacktestProgress) :
    (after id reports).message = lastSaid (·.message) reports :=
  (foldl_message (started id) reports).trans Option.or_none

/-- After earlier reports, the message is the last one of all. -/
theorem after_state_of_error (id : String) (earlier : List BacktestProgress)
    (error : report.status = "error") :
    (after id (earlier ++ [report])).state = .failed id (failureMessage earlier report) := by
  rw [after_concat, apply_state_of_error _ error, after_id, after_message]
  rfl

end BacktestJob

/-! ## A backtest in a terminal -/

/-- Polling a job enters a report, and goes on unless the report ends the job. -/
theorem Desk.enterProgress_ok (job : BacktestJob) (report : BacktestProgress) :
    (enterProgress job (.ok report)).next =
      if report.isFinal then .inr (job.apply report).state else .inl (job.apply report) := by
  rw [← job.apply_isTerminal report]
  rfl

/-- Polling goes on over replies that do not end the job, with the reports among them entered. -/
theorem Desk.course_progress (desk : Desk) (id : String)
    {replies : List (Timestamp × Except Error BacktestProgress)}
    (goesOn : ∀ reply ∈ replies, endsJob reply.2 = false) (job : BacktestJob) :
    ((desk.progress id).course job replies).next =
      .inl ((reportsOf (replies.map (·.2))).foldl BacktestJob.apply job) := by
  induction replies generalizing job with
  | nil => rfl
  | cons reply rest ih =>
      rw [List.forall_mem_cons] at goesOn
      obtain ⟨now, answer⟩ := reply
      cases answer with
      | error why =>
          have turn := congrArg Turn.next (@Poll.course_cons_of_goesOn
            (desk.progress id) job job now (.error why) rfl rest)
          exact turn.trans (ih goesOn.2 job)
      | ok report =>
          have next : (enterProgress job (.ok report)).next = .inl (job.apply report) := by
            rw [enterProgress_ok, if_neg (Bool.not_eq_true _ ▸ goesOn.1)]
          have turn := congrArg Turn.next (@Poll.course_cons_of_goesOn
            (desk.progress id) job (job.apply report) now (.ok report) next rest)
          exact turn.trans (ih goesOn.2 (job.apply report))

/-- **The message with which a backtest in a terminal ends** when a report tells of an error. -/
theorem Desk.course_progress_of_error (desk : Desk) (id : String)
    {earlier : List (Timestamp × Except Error BacktestProgress)}
    (goesOn : ∀ reply ∈ earlier, endsJob reply.2 = false) {report : BacktestProgress}
    (error : report.status = "error") (now : Timestamp)
    (later : List (Timestamp × Except Error BacktestProgress)) :
    ((desk.progress id).course (desk.progress id).start
        (earlier ++ (now, .ok report) :: later)).next =
      .inr (.failed id (failureMessage (reportsOf (earlier.map (·.2))) report)) := by
  let job := BacktestJob.after id (reportsOf (earlier.map (·.2)))
  have first : ((desk.progress id).course (desk.progress id).start earlier).next = .inl job :=
    desk.course_progress id goesOn (BacktestJob.started id)
  have final : report.isFinal = true := by simp [BacktestProgress.isFinal, error]
  have last : (enterProgress job (.ok report)).next =
      .inr (.failed id (failureMessage (reportsOf (earlier.map (·.2))) report)) := by
    rw [enterProgress_ok, if_pos final, ← BacktestJob.after_concat,
      BacktestJob.after_state_of_error id _ error]
  exact (congrArg Turn.next (Poll.course_append first _)).trans
    ((congrArg Turn.next (@Poll.course_cons_of_ends
      (desk.progress id) job now (.ok report) _ last later)).trans last)

/-! ## A backtest in a session -/

namespace BacktestExecution

variable {x : BacktestExecution} {events : List BacktestEvent} {i : Nat} {loop : BacktestLoop}
variable {report : BacktestProgress}

/-- **The message that a loop shows.** In every run, a loop that was not cancelled and holds a
report of an error can publish it. It then shows its job as failed, with the last message of all
reports that came to it. This is what the report of the error has to say exactly if that one has a
message or no other message than the default came before. -/
theorem failure_message_iff {interval : Nat} (run : (start interval).run? events = some x)
    (found : x.runner.loops[i]? = some loop) (notCancelled : loop.cancelled = false)
    (holding : loop.stage = .holding report) (error : report.status = "error") :
    ∃ earlier y, reportsTo i events = earlier ++ [report] ∧
      x.step? (.loop i .publish) = some (y, []) ∧
      y.runner.slot = .failed loop.subject.id (failureMessage earlier report) ∧
      (y.runner.slot = .failed loop.subject.id report.reason ↔
        report.message.isSome = true ∨
          ∀ told, lastSaid (·.message) earlier = some told → told = defaultFailure) := by
  obtain ⟨earlier, subject, reports⟩ := (traced_of_run? run).took i loop found notCancelled
  have handed : loop.inHand = [report] := by simp [PollLoop.inHand, holding]
  have slot : (x.runner.publish i).slot =
      .failed loop.subject.id (failureMessage earlier report) := by
    rw [BacktestRunner.publish_slot found holding, notCancelled, if_neg Bool.false_ne_true, subject,
      ← BacktestJob.after_concat, BacktestJob.after_state_of_error _ earlier error,
      BacktestJob.after_id]
  refine ⟨earlier, { x with runner := x.runner.publish i }, ?_, ?_, slot, ?_⟩
  · rw [← reports, handed]
  · have fits : LoopEvent.publish.fits loop.stage = true := by rw [holding]; rfl
    simp [step?, found, fits, BacktestRunner.advance]
  · change (x.runner.publish i).slot = _ ↔ _
    rw [slot, BacktestState.failed.injEq, eq_self, true_and]
    exact failureMessage_eq_reason_iff earlier report

/-- A report with a status and a message. -/
def noted (status : String) (message : Option String) : BacktestProgress :=
  { plainReport status with message }

/-- A backtest of which one report was published and a second one came. -/
def secondReport (first second : BacktestProgress) : List BacktestEvent :=
  [.run plainRequest, .answered (.ok "job-1") 0, .loop 0 (.serve 0), .loop 0 .ask,
    .loop 0 (.receive (.ok first)), .loop 0 .publish, .loop 0 (.serve 1000), .loop 0 .ask,
    .loop 0 (.receive (.ok second))]

/-- A failure with a message of its own is shown with it. -/
theorem failure_message_own :
    ∃ x y, (start 1000).run? (secondReport (noted "running" (some "Fetching AAPL"))
        (noted "error" (some "No data for AAPL"))) = some x ∧
      x.step? (.loop 0 .publish) = some (y, []) ∧
      y.runner.slot = .failed "job-1" "No data for AAPL" := by
  obtain ⟨x, loop, run, found, notCancelled, holding, named⟩ :
      ∃ x loop, (start 1000).run? (secondReport (noted "running" (some "Fetching AAPL"))
          (noted "error" (some "No data for AAPL"))) = some x ∧ x.runner.loops[0]? = some loop ∧
        loop.cancelled = false ∧ loop.stage = .holding (noted "error" (some "No data for AAPL")) ∧
        loop.subject.id = "job-1" := ⟨_, _, rfl, rfl, rfl, rfl, rfl⟩
  obtain ⟨earlier, y, -, step, -, own_iff⟩ :=
    failure_message_iff run found notCancelled holding rfl
  rw [named] at own_iff
  exact ⟨x, y, run, step, own_iff.mpr (Or.inl rfl)⟩

/-- A failure without a message is shown with what was said of the work before it. -/
theorem failure_message_stale :
    ∃ x y, (start 1000).run? (secondReport (noted "running" (some "Fetching AAPL"))
        (noted "error" none)) = some x ∧
      x.step? (.loop 0 .publish) = some (y, []) ∧
      y.runner.slot = .failed "job-1" "Fetching AAPL" ∧
      y.runner.slot ≠ .failed "job-1" "Backtest failed" :=
  ⟨_, _, rfl, rfl, rfl, by decide⟩

end BacktestExecution

end StrategyDesk
