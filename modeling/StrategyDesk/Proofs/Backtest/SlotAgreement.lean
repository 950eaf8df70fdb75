import StrategyDesk.Proofs.Backtest.Execution
import StrategyDesk.Proofs.Backtest.Job

/-!
# The slot agrees with the loop that is held

What the slot of the runner shows and what the runner holds are changed in different places: by its
caller, and by a loop in the background.  Whether another submission is turned down is read off
both.  Here they are tied together, for executions in which every submission gets its reply and in
which the period of polling is positive.

## Main Definitions

* `BacktestLoop.ShownBy` — what a held loop has to do with the slot
* `BacktestExecution.Agrees` — the invariant
* `BacktestExecution.Agreement` — what can be seen of it
* `BacktestMove` — how events move the slot

## Main Statements

* `BacktestExecution.Step.agrees` — each event keeps the invariant
* `BacktestExecution.Step.move` — each event moves the slot as `BacktestMove` says
* `BacktestExecution.slot_agrees_with_task` — all of it, after every run
-/

namespace StrategyDesk

/-- The slot shows the job of the loop, and the loop has returned when the job has come to an
end. -/
structure BacktestLoop.ShownBy (slot : BacktestState) (loop : BacktestLoop) : Prop where
  shown : slot = loop.subject.state
  sound : loop.subject.Sound
  returned_iff : loop.stage.hasReturned = true ↔ loop.subject.status.isTerminal = true

/-- The job of a loop that goes on goes on. -/
theorem BacktestLoop.ShownBy.goesOn {slot : BacktestState} {loop : BacktestLoop}
    (shownBy : BacktestLoop.ShownBy slot loop) (notReturned : loop.stage.hasReturned = false) :
    loop.subject.status.isTerminal = false := by
  rw [← Bool.not_eq_true, ← shownBy.returned_iff, notReturned]
  exact Bool.false_ne_true

/-- How an event may move the slot. -/
inductive BacktestMove : BacktestEvent → BacktestState → BacktestState → Prop
  | stay {event slot} : BacktestMove event slot slot
  | begin {request slot} (settled : slot.isSettled = true) :
      BacktestMove (.run request) slot .submitting
  | turnedDown {e now} : BacktestMove (.answered (.error e) now) .submitting .idle
  | taken {id now} {job : BacktestJob} (same : job.id = id) :
      BacktestMove (.answered (.ok id) now) .submitting (.polling job)
  | report {i} {job later : BacktestJob} (same : later.id = job.id) :
      BacktestMove (.loop i .publish) (.polling job) later.state
  | cancel {job} : BacktestMove .cancel (.polling job) .idle
  | drop {job} : BacktestMove .drop (.polling job) .idle

namespace BacktestExecution

/-- The slot agrees with the loop that is held, and with what the caller is about. -/
structure Agrees (x : BacktestExecution) : Prop where
  positive : 0 < x.runner.interval
  tidy : x.runner.Tidy
  sound : x.runner.slot.Sound
  /-- The slot is taken by a submission exactly when one waits for its reply. -/
  submitting_iff : x.runner.slot = .submitting ↔ ∃ request, x.caller = .waiting request
  /-- Nothing is held then. -/
  free_of_submitting : x.runner.slot = .submitting → x.runner.held = none
  /-- A held loop shows its job. -/
  shown : ∀ i loop, x.runner.held = some i → x.runner.loops[i]? = some loop →
    BacktestLoop.ShownBy x.runner.slot loop
  /-- Without a held loop no job is shown as polled. -/
  unshown : x.runner.held = none → ∀ job, x.runner.slot ≠ .polling job

/-- What can be seen of the agreement. -/
structure Agreement (x : BacktestExecution) : Prop where
  /-- A job is shown as polled exactly when the loop that is held is live, and polls it. -/
  polling_iff : ∀ jobId, (∃ job, x.runner.slot = .polling job ∧ job.id = jobId) ↔
    ∃ loop, x.runner.heldLoop? = some loop ∧ loop.isLive = true ∧ loop.subject.id = jobId
  polling_job : ∀ job, x.runner.slot = .polling job →
    job.status = .polling ∧ job.result = none
  completed_job : ∀ job, x.runner.slot = .completed job →
    job.status = .completed ∧ job.result.isSome = true ∧ job.progress = 100

variable {x y : BacktestExecution} {event : BacktestEvent} {calls : List Call}

/-! ## Reading the invariant -/

namespace Agrees

/-- A held loop stands at its place, and was not cancelled. -/
theorem heldLoop?_eq_some (agrees : x.Agrees) {loop : BacktestLoop}
    (holds : x.runner.heldLoop? = some loop) :
    loop.cancelled = false ∧ BacktestLoop.ShownBy x.runner.slot loop := by
  obtain ⟨i, held, found⟩ := Option.bind_eq_some_iff.mp holds
  obtain ⟨same, there, notCancelled⟩ := (agrees.tidy i).mp held
  rw [found] at there
  obtain rfl := Option.some.inj there
  exact ⟨notCancelled, agrees.shown i loop held found⟩

/-- A live loop that is held has its job shown as polled. -/
theorem slot_of_isLive (agrees : x.Agrees) {loop : BacktestLoop}
    (holds : x.runner.heldLoop? = some loop) (live : loop.isLive = true) :
    x.runner.slot = .polling loop.subject := by
  obtain ⟨-, shownBy⟩ := agrees.heldLoop?_eq_some holds
  have goesOn := shownBy.goesOn (loop.isLive_iff.mp live).2
  rw [shownBy.shown, loop.subject.state_of_goesOn goesOn]

/-- A job that is shown as polled is polled by a live loop that is held. -/
theorem exists_live_of_polling (agrees : x.Agrees) {job : BacktestJob}
    (polling : x.runner.slot = .polling job) :
    ∃ loop, x.runner.heldLoop? = some loop ∧ loop.isLive = true ∧ loop.subject = job := by
  cases held : x.runner.held with
  | none => exact absurd polling (agrees.unshown held job)
  | some i =>
      obtain ⟨loop, found, notCancelled⟩ := (agrees.tidy i).mp held
      have shownBy := agrees.shown i loop held found
      have sameState := shownBy.shown.symm.trans polling
      obtain ⟨rfl, status⟩ := loop.subject.state_eq_polling shownBy.sound sameState
      have notReturned : loop.stage.hasReturned = false := by
        rw [← Bool.not_eq_true, shownBy.returned_iff, status]
        exact Bool.false_ne_true
      refine ⟨loop, ?_, loop.isLive_iff.mpr ⟨notCancelled, notReturned⟩, rfl⟩
      rw [PollLoops.heldLoop?, held]
      exact found

/-- The runner counts as polling exactly when a job is shown as polled. -/
theorem isPolling_iff (agrees : x.Agrees) :
    x.runner.isPolling = true ↔ ∃ job, x.runner.slot = .polling job := by
  constructor
  · intro polling
    cases holds : x.runner.heldLoop? with
    | none => simp [PollLoops.isPolling, holds] at polling
    | some loop =>
        have live : loop.isLive = true := by simpa [PollLoops.isPolling, holds] using polling
        exact ⟨loop.subject, agrees.slot_of_isLive holds live⟩
  · rintro ⟨job, polling⟩
    obtain ⟨loop, holds, live, -⟩ := agrees.exists_live_of_polling polling
    simp [PollLoops.isPolling, holds, live]

theorem agreement (agrees : x.Agrees) : x.Agreement where
  polling_iff jobId := by
    constructor
    · rintro ⟨job, polling, rfl⟩
      obtain ⟨loop, holds, live, rfl⟩ := agrees.exists_live_of_polling polling
      exact ⟨loop, holds, live, rfl⟩
    · rintro ⟨loop, holds, live, rfl⟩
      exact ⟨loop.subject, agrees.slot_of_isLive holds live, rfl⟩
  polling_job job polling := by
    have sound := agrees.sound
    rw [polling] at sound
    exact sound
  completed_job job completed := by
    have sound := agrees.sound
    rw [completed] at sound
    exact sound

/-- A submission is turned down exactly when a job is shown as polled. -/
theorem begin_eq_error_iff (agrees : x.Agrees) :
    x.runner.begin = .error (.refused .backtestRunning) ↔
      ∃ job, x.runner.slot = .polling job := by
  rw [BacktestRunner.begin_eq_error_iff, agrees.isPolling_iff]
  constructor
  · rintro ⟨-, polling, -⟩
    exact polling
  · rintro ⟨job, polling⟩
    exact ⟨rfl, ⟨job, polling⟩, by rw [polling]; rfl⟩

end Agrees

/-! ## Keeping the invariant -/

theorem start_agrees {interval : Nat} (positive : 0 < interval) : (start interval).Agrees where
  positive := positive
  tidy := PollLoops.tidy_none
  sound := trivial
  submitting_iff := by
    refine ⟨fun submitting => ?_, ?_⟩
    · cases submitting
    · rintro ⟨request, waiting⟩
      cases waiting
  free_of_submitting _ := rfl
  shown i loop held _ := by cases held
  unshown _ job polling := by cases polling

/-- What a loop does next keeps the slot and the loop in agreement. -/
theorem Agrees.loop (agrees : x.Agrees) {i : Nat} {next : LoopEvent BacktestProgress}
    {loop : BacktestLoop} (found : x.runner.loops[i]? = some loop)
    (fits : next.fits loop.stage = true) (notCancelled : loop.cancelled = false) :
    BacktestLoop.ShownBy (x.runner.advance i next).1.slot
      (loop.advance BacktestLoop.enter next) := by
  have held := (agrees.tidy i).mpr ⟨loop, found, notCancelled⟩
  have shownBy := agrees.shown i loop held found
  have notReturned := LoopEvent.hasReturned_of_fits fits
  by_cases publishes : next = .publish
  · subst publishes
    cases stage : loop.stage with
    | waiting | ticked | asking | returned => simp [LoopEvent.fits, stage] at fits
    | holding report =>
        -- The job had no result before the report, so that it has one only if it is complete.
        have noResult :=
          loop.subject.result_eq_none_of_sound shownBy.sound (shownBy.goesOn notReturned)
        have slot := BacktestRunner.publish_slot found stage
        rw [notCancelled] at slot
        rw [PollLoop.advance, BacktestLoop.enter_of_holding stage]
        refine ⟨slot, loop.subject.apply_sound report noResult, ?_⟩
        cases (loop.subject.apply report).status.isTerminal <;> simp [LoopStage.hasReturned]
  · have goesOn : (loop.advance BacktestLoop.enter next).stage.hasReturned = false :=
      loop.advance_hasReturned_of_ne_publish notCancelled fits publishes
    refine ⟨?_, ?_, ?_⟩
    · rw [BacktestRunner.advance_slot_of_ne_publish publishes,
        loop.advance_subject_of_ne_publish publishes]
      exact shownBy.shown
    · rw [loop.advance_subject_of_ne_publish publishes]
      exact shownBy.sound
    · rw [goesOn, loop.advance_subject_of_ne_publish publishes, ← notReturned]
      exact shownBy.returned_iff

/-- After cancelling nothing is under way, as long as no submission waits for its reply. -/
theorem Agrees.cancel_isSettled (agrees : x.Agrees) (free : x.caller = .free) :
    x.runner.cancel.slot.isSettled = true := by
  rw [BacktestRunner.cancel_slot]
  cases slot : x.runner.slot with
  | idle | completed _ | failed _ _ => simp [BacktestState.isSettled, BacktestState.isActive]
  | submitting =>
      obtain ⟨request, waiting⟩ := agrees.submitting_iff.mp slot
      rw [free] at waiting
      cases waiting
  | polling job =>
      cases held : x.runner.held with
      | none => exact absurd slot (agrees.unshown held job)
      | some i => simp [BacktestState.isSettled, BacktestState.isActive]

theorem Agrees.cancel_sound (agrees : x.Agrees) : x.runner.cancel.slot.Sound := by
  rw [BacktestRunner.cancel_slot]
  split
  · trivial
  · exact agrees.sound

/-- The invariant holds after cancelling, whether the caller goes on or not. -/
theorem Agrees.cancel (agrees : x.Agrees) (free : x.caller = .free)
    {caller : Caller BacktestRequest} (notWaiting : ∀ request, caller ≠ .waiting request) :
    Agrees ⟨x.runner.cancel, caller⟩ := by
  have settled := agrees.cancel_isSettled free
  have notHeld : x.runner.cancel.held = none := by simp
  refine ⟨?_, ?_, agrees.cancel_sound, ⟨?_, ?_⟩, fun _ => notHeld, ?_, ?_⟩
  · simpa using agrees.positive
  · simpa using agrees.tidy.release
  · intro submitting
    rw [submitting] at settled
    cases settled
  · rintro ⟨request, waiting⟩
    exact absurd waiting (notWaiting request)
  · intro i loop held _
    rw [notHeld] at held
    cases held
  · intro _ job polling
    rw [polling] at settled
    cases settled

/-- The invariant holds when a submission was sent. -/
theorem Agrees.begun (agrees : x.Agrees) {request : BacktestRequest} :
    Agrees ⟨{ x.runner.cancel with slot := .submitting }, .waiting request⟩ := by
  have notHeld : x.runner.cancel.held = none := by simp
  refine ⟨?_, ?_, trivial, ⟨fun _ => ⟨request, rfl⟩, fun _ => rfl⟩, fun _ => notHeld, ?_, ?_⟩
  · simpa using agrees.positive
  · simpa using agrees.tidy.release
  · intro i loop held _
    have contradiction := notHeld.symm.trans held
    cases contradiction
  · intro _ job polling
    cases polling

/-- The invariant holds when the engine turned a submission down. -/
theorem Agrees.turnedDown (agrees : x.Agrees) (submitting : x.runner.slot = .submitting) :
    Agrees ⟨{ x.runner with slot := .idle }, .free⟩ := by
  have notHeld : x.runner.held = none := agrees.free_of_submitting submitting
  refine ⟨agrees.positive, agrees.tidy, trivial, ⟨?_, ?_⟩, fun _ => notHeld, ?_, ?_⟩
  · intro idle
    cases idle
  · rintro ⟨request, waiting⟩
    cases waiting
  · intro i loop held _
    have contradiction := notHeld.symm.trans held
    cases contradiction
  · intro _ job polling
    cases polling

/-- The invariant holds when the engine took a submission. -/
theorem Agrees.taken (agrees : x.Agrees) (id : String) (now : Nat) :
    Agrees ⟨x.runner.conclude (.ok id) now, .free⟩ := by
  refine ⟨agrees.positive, agrees.tidy.start rfl, ⟨rfl, rfl⟩, ⟨?_, ?_⟩, ?_, ?_, ?_⟩
  · intro polling
    cases polling
  · rintro ⟨request, waiting⟩
    cases waiting
  · intro polling
    cases polling
  · -- The loop that is held now is the one that was just started.
    intro i loop held found
    obtain rfl := Option.some.inj held
    rw [BacktestRunner.conclude, PollLoops.getElem?_start_last] at found
    obtain rfl := Option.some.inj found
    have goesOn : x.runner.interval ≠ 0 := Nat.ne_of_gt agrees.positive
    refine ⟨rfl, BacktestJob.started_sound id, ?_⟩
    simp [LoopStage.first, goesOn, LoopStage.hasReturned, JobStatus.isTerminal]
  · intro free
    cases free

/-- The invariant holds after a step of a cancelled loop: that loop is not the one that is held, and
leaves the slot alone. -/
theorem Agrees.loop_of_cancelled (agrees : x.Agrees) {i : Nat} {loop : BacktestLoop}
    {next : LoopEvent BacktestProgress} (found : x.runner.loops[i]? = some loop)
    (fits : next.fits loop.stage = true) (cancelled : loop.cancelled = true) :
    Agrees { x with runner := (x.runner.advance i next).1 } := by
  have loops := BacktestRunner.advance_loops found fits
  obtain ⟨slot, -⟩ := BacktestRunner.advance_of_cancelled found cancelled next
  refine ⟨?_, ?_, ?_, ?_, ?_, ?_, ?_⟩
  · simpa using agrees.positive
  · rw [loops]
    exact agrees.tidy.update i fun l => l.advance_cancelled BacktestLoop.enter_cancelled next
  · rw [slot]; exact agrees.sound
  · rw [slot]; exact agrees.submitting_iff
  · rw [slot, loops]; exact agrees.free_of_submitting
  · intro j m held there
    rw [loops] at held there
    obtain ⟨other, isOther, notCancelled⟩ := (agrees.tidy j).mp held
    have different : i ≠ j := by
      rintro rfl
      rw [found, Option.some.injEq] at isOther
      rw [← isOther, cancelled] at notCancelled
      cases notCancelled
    rw [PollLoops.getElem?_update_ne _ _ different] at there
    rw [slot]
    exact agrees.shown j m held there
  · rw [slot, loops]; exact agrees.unshown

/-- The invariant holds after a step of the loop that is held. -/
theorem Agrees.loop_of_held (agrees : x.Agrees) {i : Nat} {loop : BacktestLoop}
    {next : LoopEvent BacktestProgress} (found : x.runner.loops[i]? = some loop)
    (fits : next.fits loop.stage = true) (notCancelled : loop.cancelled = false) :
    Agrees { x with runner := (x.runner.advance i next).1 } := by
  have loops := BacktestRunner.advance_loops found fits
  have held := (agrees.tidy i).mpr ⟨loop, found, notCancelled⟩
  have shownBy := agrees.loop found fits notCancelled
  have notSubmitting : x.runner.slot ≠ .submitting := by
    intro submitting
    have contradiction := (agrees.free_of_submitting submitting).symm.trans held
    cases contradiction
  -- Neither before nor after the step does the slot belong to a submission.
  have slotTaken : (x.runner.advance i next).1.slot ≠ .submitting := by
    rw [shownBy.shown]
    exact BacktestJob.state_ne_submitting _
  refine ⟨?_, ?_, ?_, ⟨?_, ?_⟩, ?_, ?_, ?_⟩
  · simpa using agrees.positive
  · rw [loops]
    exact agrees.tidy.update i fun l => l.advance_cancelled BacktestLoop.enter_cancelled next
  · rw [shownBy.shown]
    exact BacktestJob.state_sound shownBy.sound
  · intro submitting
    exact absurd submitting slotTaken
  · intro waiting
    exact absurd (agrees.submitting_iff.mpr waiting) notSubmitting
  · intro submitting
    exact absurd submitting slotTaken
  · intro j m heldNow there
    rw [loops] at heldNow there
    obtain rfl := Option.some.inj (held.symm.trans heldNow)
    rw [PollLoops.getElem?_update_self _ _ found] at there
    obtain rfl := Option.some.inj there
    exact shownBy
  · intro free
    rw [loops] at free
    have contradiction := free.symm.trans held
    cases contradiction

/-- **Each event keeps the invariant**, unless a submission is given up. -/
theorem Step.agrees (step : Step x event y calls) (driven : event ≠ .abandon)
    (agrees : x.Agrees) : y.Agrees := by
  cases step with
  | refused _ _ => exact agrees
  | abandoned _ => exact absurd rfl driven
  | begun free ready =>
      obtain rfl := BacktestRunner.begin_eq_ok ready
      exact agrees.begun
  | cancelled free =>
      refine agrees.cancel free fun request waiting => ?_
      rw [free] at waiting
      cases waiting
  | dropped free =>
      refine agrees.cancel free fun request waiting => ?_
      cases waiting
  | @answered request reply now waiting =>
      cases reply with
      | error e => exact agrees.turnedDown (agrees.submitting_iff.mpr ⟨request, waiting⟩)
      | ok id => exact agrees.taken id now
  | @loop i next loop found fits =>
      cases mark : loop.cancelled with
      | true => exact agrees.loop_of_cancelled found fits mark
      | false => exact agrees.loop_of_held found fits mark

/-- The invariant holds after every run in which no submission is given up. -/
theorem agrees_of_run? {interval : Nat} (positive : 0 < interval) {events : List BacktestEvent}
    (run : (start interval).run? events = some x) (driven : .abandon ∉ events) : x.Agrees := by
  refine run?_induction (fun events x => .abandon ∉ events → x.Agrees)
    (fun _ => start_agrees positive) ?_ run driven
  intro events y event z calls before step driven
  rw [List.mem_append, List.mem_singleton, not_or] at driven
  exact step.agrees (Ne.symm driven.2) (before driven.1)

/-! ## How the slot moves -/

/-- Cancelling makes a slot idle that shows a polled job, and leaves any other as it is. -/
theorem Agrees.cancel_slot (agrees : x.Agrees) (free : x.caller = .free) :
    x.runner.cancel.slot = x.runner.slot ∨
      ∃ job, x.runner.slot = .polling job ∧ x.runner.cancel.slot = .idle := by
  have settled := agrees.cancel_isSettled free
  rw [BacktestRunner.cancel_slot] at settled ⊢
  cases slot : x.runner.slot with
  | idle | completed _ | failed _ _ => simp [BacktestState.isActive]
  | submitting | polling _ =>
      cases held : x.runner.held with
      | none => simp [slot, held, BacktestState.isSettled, BacktestState.isActive] at settled
      | some i =>
          first
          | exact Or.inr ⟨_, rfl, rfl⟩
          | obtain ⟨request, waiting⟩ := agrees.submitting_iff.mp slot
            rw [free] at waiting
            cases waiting

/-- A loop that publishes reports on the very job that the slot shows. -/
theorem Agrees.loop_move (agrees : x.Agrees) {i : Nat} {loop : BacktestLoop}
    {next : LoopEvent BacktestProgress} (found : x.runner.loops[i]? = some loop)
    (fits : next.fits loop.stage = true) :
    BacktestMove (.loop i next) x.runner.slot (x.runner.advance i next).1.slot := by
  rcases BacktestRunner.advance_slot_cases found fits with
    same | ⟨rfl, notCancelled, report, -, written⟩
  · rw [same]
    exact .stay
  · have held := (agrees.tidy i).mpr ⟨loop, found, notCancelled⟩
    have shownBy := agrees.shown i loop held found
    have goesOn := shownBy.goesOn (LoopEvent.hasReturned_of_fits fits)
    rw [written, shownBy.shown, loop.subject.state_of_goesOn goesOn]
    exact .report (loop.subject.apply_id report)

/-- **Each event moves the slot as `BacktestMove` says**, unless a submission is given up. -/
theorem Step.move (step : Step x event y calls) (driven : event ≠ .abandon)
    (agrees : x.Agrees) : BacktestMove event x.runner.slot y.runner.slot := by
  cases step with
  | refused _ _ => exact .stay
  | abandoned _ => exact absurd rfl driven
  | @begun request runner free ready =>
      obtain rfl := BacktestRunner.begin_eq_ok ready
      refine .begin ?_
      cases slot : x.runner.slot with
      | idle | completed _ | failed _ _ => rfl
      | submitting =>
          obtain ⟨_, waiting⟩ := agrees.submitting_iff.mp slot
          rw [free] at waiting
          cases waiting
      | polling job =>
          have refusal := agrees.begin_eq_error_iff.mpr ⟨job, slot⟩
          rw [refusal] at ready
          cases ready
  | cancelled free =>
      rcases agrees.cancel_slot free with same | ⟨job, polling, idle⟩
      · rw [same]
        exact .stay
      · rw [polling, idle]
        exact .cancel
  | dropped free =>
      rcases agrees.cancel_slot free with same | ⟨job, polling, idle⟩
      · rw [same]
        exact .stay
      · rw [polling, idle]
        exact .drop
  | @answered request reply now waiting =>
      rw [agrees.submitting_iff.mpr ⟨request, waiting⟩]
      cases reply with
      | error e => exact .turnedDown
      | ok id => exact .taken rfl
  | loop found fits => exact agrees.loop_move found fits

/-! ## The whole agreement -/

/-- A submission that the engine turns down leaves an idle slot and no live loop, so that the next
one is sent. -/
theorem Agrees.of_turnedDown (agrees : x.Agrees) {e : Error} {now : Nat}
    (step : Step x (.answered (.error e) now) y calls) :
    y.runner.slot = .idle ∧ (∀ loop ∈ y.runner.loops, loop.isLive = false) ∧
      ∃ runner, y.runner.begin = .ok runner := by
  cases step with
  | @answered request _ _ waiting =>
      have submitting := agrees.submitting_iff.mpr ⟨request, waiting⟩
      have notHeld := agrees.free_of_submitting submitting
      have notPolling : x.runner.isPolling = false := by
        simp [PollLoops.isPolling, PollLoops.heldLoop?, notHeld]
      refine ⟨rfl, ?_, ?_⟩
      · intro loop member
        obtain ⟨i, found⟩ := List.mem_iff_getElem?.mp member
        have cancelled := agrees.tidy.cancelled_of_held_eq_none notHeld found
        simp [PollLoop.isLive, cancelled]
      · cases ready : (x.runner.conclude (.error e) now).begin with
        | ok runner => exact ⟨runner, rfl⟩
        | error refusal =>
            obtain ⟨-, polling, -⟩ := BacktestRunner.begin_eq_error_iff.mp ready
            have contradiction := notPolling.symm.trans polling
            cases contradiction

/-- A submission that is turned down without asking the engine changes nothing and sends nothing. -/
theorem step?_run_of_begin_eq_error (free : x.caller = .free) {e : Error}
    (refusal : x.runner.begin = .error e) (request : BacktestRequest) :
    x.step? (.run request) = some (x, []) := by
  simp only [step?, free, refusal]

/-- **The slot agrees with the loop that is held**, after every run in which no submission is given
up and with a positive period of polling.  The slot moves only as `BacktestMove` says; a submission
is turned down exactly when a job is shown as polled, and then nothing changes and nothing is sent;
and after one that the engine turned down the next one is sent. -/
theorem slot_agrees_with_task {interval : Nat} (positive : 0 < interval)
    {events : List BacktestEvent} (run : (start interval).run? events = some x)
    (driven : .abandon ∉ events) :
    x.Agreement ∧
    (∀ event y calls, event ≠ .abandon → x.step? event = some (y, calls) →
      BacktestMove event x.runner.slot y.runner.slot) ∧
    (x.caller = .free →
      (x.runner.begin = .error (.refused .backtestRunning) ↔
        ∃ job, x.runner.slot = .polling job) ∧
      ∀ e, x.runner.begin = .error e → e = .refused .backtestRunning ∧
        ∀ request, x.step? (.run request) = some (x, [])) ∧
    (∀ e now y calls, x.step? (.answered (.error e) now) = some (y, calls) →
      y.runner.slot = .idle ∧ (∀ loop ∈ y.runner.loops, loop.isLive = false) ∧
      ∃ runner, y.runner.begin = .ok runner) := by
  have agrees := agrees_of_run? positive run driven
  refine ⟨agrees.agreement, ?_, ?_, ?_⟩
  · intro event y calls drivenOn step
    exact (step_of_step? step).move drivenOn agrees
  · intro free
    refine ⟨agrees.begin_eq_error_iff, fun e refusal => ⟨?_, ?_⟩⟩
    · exact (BacktestRunner.begin_eq_error_iff.mp refusal).1
    · exact step?_run_of_begin_eq_error free refusal
  · intro e now y calls step
    exact agrees.of_turnedDown (step_of_step? step)

/-- After the first report of a running backtest its job is shown as polled, by the loop that is
held. -/
theorem slot_agrees_after_firstReport :
    ∃ x, (start 1000).run? (firstReport "job-1" "running") = some x ∧
      (∃ job, x.runner.slot = .polling job ∧ job.id = "job-1") ∧ x.Agreement := by
  have positive : 0 < 1000 := by decide
  have driven : .abandon ∉ firstReport "job-1" "running" := by simp [firstReport]
  exact ⟨_, rfl, ⟨_, rfl, rfl⟩, (slot_agrees_with_task positive rfl driven).1⟩

end BacktestExecution

end StrategyDesk
