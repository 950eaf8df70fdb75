import StrategyDesk.Proofs.Backtest.Execution
import StrategyDesk.Proofs.Backtest.Job

/-!
# Submissions that were given up

A submission takes the slot before its request is sent, and the loop that is held is stored after
the reply.  When the caller gives the submission up in between, nothing is held, and cancelling has
nothing to let go.  Here all executions are allowed, those in which submissions are given up among
them, and any period of polling.

## Main Definitions

* `GaveUp` — a submission was given up, and none was made since
* `BacktestExecution.Occupied` — the invariant: who has taken the slot

## Main Statements

* `BacktestExecution.Step.occupied` — each event keeps the invariant
* `BacktestExecution.cancel_isSettled_iff` — when cancelling frees the slot, after every run
* `BacktestExecution.cancel_leaves_submitting` — a submission that is given up, and the slot that
  stays taken
-/

namespace StrategyDesk

/-- The caller gave up a submission that waited for its reply, and has made none since. -/
def GaveUp (events : List BacktestEvent) : Prop :=
  ∃ earlier later, events = earlier ++ .abandon :: later ∧ ∀ request, .run request ∉ later

section GaveUp

variable {events later : List BacktestEvent} {event : BacktestEvent}

theorem not_gaveUp_nil : ¬ GaveUp [] := by
  rintro ⟨earlier, later, split, -⟩
  cases earlier <;> cases split

theorem gaveUp_concat_abandon (events : List BacktestEvent) : GaveUp (events ++ [.abandon]) :=
  ⟨events, [], rfl, fun _ => List.not_mem_nil⟩

/-- An event that something was done before is the last of all, or comes before the last. -/
theorem concat_eq_append_cons {events earlier later : List BacktestEvent}
    {last event : BacktestEvent} (split : events ++ [last] = earlier ++ event :: later) :
    event = last ∨ ∃ others, later = others ++ [last] ∧ events = earlier ++ event :: others := by
  rcases List.eq_nil_or_concat later with rfl | ⟨others, final, rfl⟩
  · exact Or.inl (List.singleton_inj.mp (List.append_inj' split rfl).2).symm
  · have regrouped : events ++ [last] = (earlier ++ event :: others) ++ [final] := by
      simpa using split
    obtain ⟨same, ends⟩ := List.append_inj' regrouped rfl
    obtain rfl := List.singleton_inj.mp ends
    exact Or.inr ⟨others, by simp, same⟩

/-- A submission makes up for those that were given up before. -/
theorem not_gaveUp_concat_run (events : List BacktestEvent) (request : BacktestRequest) :
    ¬ GaveUp (events ++ [.run request]) := by
  rintro ⟨earlier, later, split, none⟩
  rcases concat_eq_append_cons split with same | ⟨others, rfl, -⟩
  · cases same
  · exact none request List.mem_concat_self

/-- What is neither a submission nor one that is given up does not matter. -/
theorem gaveUp_concat_iff (notAbandon : event ≠ .abandon)
    (notRun : ∀ request, event ≠ .run request) : GaveUp (events ++ [event]) ↔ GaveUp events := by
  constructor
  · rintro ⟨earlier, later, split, none⟩
    rcases concat_eq_append_cons split with same | ⟨others, rfl, before⟩
    · exact absurd same.symm notAbandon
    · exact ⟨earlier, others, before,
        fun request member => none request (List.mem_append_left _ member)⟩
  · rintro ⟨earlier, later, rfl, none⟩
    refine ⟨earlier, later ++ [event], by simp, fun request member => ?_⟩
    rcases List.mem_append.mp member with before | last
    · exact none request before
    · exact notRun request (List.mem_singleton.mp last).symm

/-- A submission that was given up stays so until the next one. -/
theorem GaveUp.append (gaveUp : GaveUp events) (none : ∀ request, .run request ∉ later) :
    GaveUp (events ++ later) := by
  obtain ⟨earlier, since, rfl, before⟩ := gaveUp
  refine ⟨earlier, since ++ later, by simp, fun request member => ?_⟩
  rcases List.mem_append.mp member with early | late
  · exact before request early
  · exact none request late

end GaveUp

namespace BacktestRunner

variable {r : BacktestRunner}

/-- When nothing is held, cancelling changes nothing. -/
theorem cancel_of_unheld (unheld : r.held = none) : r.cancel = r := by
  unfold cancel
  rw [unheld]

/-- When nothing is held, a submission is not turned down. -/
theorem begin_of_unheld (unheld : r.held = none) :
    r.begin = .ok { r with slot := .submitting } := by
  have notPolling : r.isPolling = false := by
    simp [PollLoops.isPolling, PollLoops.heldLoop?, unheld]
  simp [begin, notPolling, cancel_of_unheld unheld]

/-- A slot that is left active was left as it is, with nothing held. -/
theorem isActive_cancel_iff :
    r.cancel.slot.isActive = true ↔ r.held = none ∧ r.slot.isActive = true := by
  rw [cancel_slot]
  cases held : r.held with
  | none => simp
  | some i =>
      cases active : r.slot.isActive with
      | true => simp [BacktestState.isActive]
      | false => simp [active]

end BacktestRunner

namespace BacktestExecution

/-- Who has taken the slot. -/
structure Occupied (events : List BacktestEvent) (x : BacktestExecution) : Prop where
  tidy : x.runner.Tidy
  /-- The slot is taken by a submission exactly when one waits for its reply or was given up. -/
  submitting_iff : x.runner.slot = .submitting ↔
    (∃ request, x.caller = .waiting request) ∨ GaveUp events
  /-- Nothing is held then. -/
  unheld : x.runner.slot = .submitting → x.runner.held = none
  /-- Without a held loop no job is shown as polled. -/
  unshown : x.runner.held = none → ∀ job, x.runner.slot ≠ .polling job
  /-- A submission that waits for its reply was not given up. -/
  notGivenUp : ∀ request, x.caller = .waiting request → ¬ GaveUp events

variable {x y : BacktestExecution} {event : BacktestEvent} {events : List BacktestEvent}
variable {calls : List Call}

theorem start_occupied (interval : Nat) : Occupied [] (start interval) where
  tidy := PollLoops.tidy_none
  submitting_iff := by
    refine ⟨nofun, ?_⟩
    rintro (⟨request, waiting⟩ | gaveUp)
    · cases waiting
    · exact absurd gaveUp not_gaveUp_nil
  unheld := nofun
  unshown _ _ := nofun
  notGivenUp _ waiting := nomatch waiting

namespace Occupied

/-- With a free caller a submission that takes the slot was given up. -/
theorem gaveUp_iff (occupied : Occupied events x) (free : x.caller = .free) :
    GaveUp events ↔ x.runner.slot = .submitting := by
  rw [occupied.submitting_iff]
  refine ⟨Or.inr, ?_⟩
  rintro (⟨request, waiting⟩ | gaveUp)
  · rw [free] at waiting
    cases waiting
  · exact gaveUp

/-- The slot of a submission is left as it is by cancelling, and none becomes one. -/
theorem cancel_submitting_iff (occupied : Occupied events x) :
    x.runner.cancel.slot = .submitting ↔ x.runner.slot = .submitting := by
  constructor
  · intro submitting
    have active : x.runner.cancel.slot.isActive = true := by
      rw [submitting]
      rfl
    obtain ⟨unheld, -⟩ := BacktestRunner.isActive_cancel_iff.mp active
    rwa [BacktestRunner.cancel_of_unheld unheld] at submitting
  · intro submitting
    rw [BacktestRunner.cancel_of_unheld (occupied.unheld submitting), submitting]

/-- The invariant holds after cancelling, whether the caller goes on or not. -/
theorem cancel (occupied : Occupied events x) (free : x.caller = .free)
    {caller : Caller BacktestRequest} (notWaiting : ∀ request, caller ≠ .waiting request)
    (notAbandon : event ≠ .abandon) (notRun : ∀ request, event ≠ .run request) :
    Occupied (events ++ [event]) ⟨x.runner.cancel, caller⟩ := by
  have unheld : x.runner.cancel.held = none := by simp
  refine ⟨?_, ?_, fun _ => unheld, fun _ job polling => ?_, fun request waiting => ?_⟩
  · simpa using occupied.tidy.release
  · rw [gaveUp_concat_iff notAbandon notRun, occupied.gaveUp_iff free,
      occupied.cancel_submitting_iff]
    refine ⟨Or.inr, ?_⟩
    rintro (⟨request, waiting⟩ | submitting)
    · exact absurd waiting (notWaiting request)
    · exact submitting
  · have active : x.runner.cancel.slot.isActive = true := by
      rw [polling]
      rfl
    obtain ⟨free, -⟩ := BacktestRunner.isActive_cancel_iff.mp active
    rw [BacktestRunner.cancel_of_unheld free] at polling
    exact occupied.unshown free job polling
  · exact absurd waiting (notWaiting request)

/-- The invariant holds when the reply to a submission has arrived. -/
theorem answered (occupied : Occupied events x) {request : BacktestRequest}
    (waiting : x.caller = .waiting request) (reply : Except Error String) (now : Nat) :
    Occupied (events ++ [.answered reply now]) ⟨x.runner.conclude reply now, .free⟩ := by
  have submitting := occupied.submitting_iff.mpr (Or.inl ⟨request, waiting⟩)
  have untouched : GaveUp (events ++ [.answered reply now]) ↔ GaveUp events :=
    gaveUp_concat_iff nofun fun _ => nofun
  have notGivenUp := mt untouched.mp (occupied.notGivenUp request waiting)
  cases reply with
  | error e =>
      refine ⟨occupied.tidy, ⟨fun idle => ?_, ?_⟩, fun idle => ?_, fun _ job polling => ?_,
        fun other waits => ?_⟩
      · cases idle
      · rintro (⟨other, waits⟩ | gaveUp)
        · cases waits
        · exact absurd gaveUp notGivenUp
      · cases idle
      · cases polling
      · cases waits
  | ok id =>
      refine ⟨occupied.tidy.start rfl, ⟨fun polling => ?_, ?_⟩, fun polling => ?_,
        fun unheld => ?_, fun other waits => ?_⟩
      · cases polling
      · rintro (⟨other, waits⟩ | gaveUp)
        · cases waits
        · exact absurd gaveUp notGivenUp
      · cases polling
      · cases unheld
      · cases waits

/-- The invariant holds after a step of a loop: only the held loop writes the slot, and what it
writes is no submission. -/
theorem loop (occupied : Occupied events x) {i : Nat} {next : LoopEvent BacktestProgress}
    {loop : BacktestLoop} (found : x.runner.loops[i]? = some loop)
    (fits : next.fits loop.stage = true) :
    Occupied (events ++ [.loop i next]) { x with runner := (x.runner.advance i next).1 } := by
  have loops := BacktestRunner.advance_loops found fits
  have untouched : GaveUp (events ++ [.loop i next]) ↔ GaveUp events :=
    gaveUp_concat_iff nofun fun _ => nofun
  have tidy : (x.runner.advance i next).1.Tidy := by
    rw [loops]
    exact occupied.tidy.update i fun l => l.advance_cancelled BacktestLoop.enter_cancelled next
  rcases BacktestRunner.advance_slot_cases found fits with
    same | ⟨-, notCancelled, report, -, written⟩
  · refine ⟨tidy, ?_, ?_, ?_, ?_⟩
    · rw [same, untouched]
      exact occupied.submitting_iff
    · rw [same, loops]
      exact occupied.unheld
    · rw [same, loops]
      exact occupied.unshown
    · rw [untouched]
      exact occupied.notGivenUp
  · have held := (occupied.tidy i).mpr ⟨loop, found, notCancelled⟩
    have before : x.runner.slot ≠ .submitting := by
      intro submitting
      have contradiction := (occupied.unheld submitting).symm.trans held
      cases contradiction
    have after : (x.runner.advance i next).1.slot ≠ .submitting := by
      rw [written]
      exact BacktestJob.state_ne_submitting _
    refine ⟨tidy, ?_, fun submitting => absurd submitting after, fun unheld => ?_, ?_⟩
    · rw [untouched, ← occupied.submitting_iff]
      exact iff_of_false after before
    · rw [loops] at unheld
      have contradiction := unheld.symm.trans held
      cases contradiction
    · rw [untouched]
      exact occupied.notGivenUp

end Occupied

/-- **Each event keeps the invariant.** -/
theorem Step.occupied (step : Step x event y calls) (occupied : Occupied events x) :
    Occupied (events ++ [event]) y := by
  cases step with
  | @refused request e free refusal =>
      -- A submission that is turned down finds a loop held, so that none was given up.
      have notSubmitting : x.runner.slot ≠ .submitting := by
        intro submitting
        rw [BacktestRunner.begin_of_unheld (occupied.unheld submitting)] at refusal
        cases refusal
      refine ⟨occupied.tidy, ?_, occupied.unheld, occupied.unshown,
        fun other _ => not_gaveUp_concat_run events request⟩
      refine iff_of_false notSubmitting ?_
      rintro (⟨other, waiting⟩ | gaveUp)
      · rw [free] at waiting
        cases waiting
      · exact not_gaveUp_concat_run events request gaveUp
  | @begun request runner free ready =>
      obtain rfl := BacktestRunner.begin_eq_ok ready
      refine ⟨?_, iff_of_true rfl (Or.inl ⟨request, rfl⟩), fun _ => ?_, fun _ job => nofun,
        fun other _ => not_gaveUp_concat_run events request⟩
      · simpa using occupied.tidy.release
      · exact BacktestRunner.cancel_toPollLoops _ ▸ PollLoops.release_held _
  | @abandoned request waiting =>
      have submitting := occupied.submitting_iff.mpr (Or.inl ⟨request, waiting⟩)
      exact ⟨occupied.tidy, iff_of_true submitting (Or.inr (gaveUp_concat_abandon events)),
        occupied.unheld, occupied.unshown, fun _ waits => nomatch waits⟩
  | answered reply now waiting => exact occupied.answered waiting reply now
  | cancelled free =>
      refine occupied.cancel free (fun request waiting => ?_) nofun fun _ => nofun
      rw [free] at waiting
      cases waiting
  | dropped free => exact occupied.cancel free (fun _ => nofun) nofun fun _ => nofun
  | loop found fits => exact occupied.loop found fits

/-- The invariant holds after every run. -/
theorem occupied_of_run? {interval : Nat} (run : (start interval).run? events = some x) :
    Occupied events x := by
  refine run?_induction Occupied (start_occupied interval) ?_ run
  intro _ y event z calls before step
  exact step.occupied before

/-- **When cancelling frees the slot**, after every run, submissions that are given up among the
events, and with any period of polling.  The slot is settled after cancelling exactly if no
submission was given up since the last one that was made.  Otherwise cancelling changes nothing, and
the slot stays taken by that submission, whatever happens, until the next one is made, which is not
turned down. -/
theorem cancel_isSettled_iff {interval : Nat} (run : (start interval).run? events = some x)
    (free : x.caller = .free) :
    (x.runner.cancel.slot.isSettled = true ↔ ¬ GaveUp events) ∧
    (GaveUp events →
      x.runner.cancel = x.runner ∧
      (∀ later y, x.run? later = some y → (∀ request, .run request ∉ later) →
        y.runner.slot = .submitting) ∧
      ∀ request, ∃ y, x.step? (.run request) = some (y, [.submitBacktest request])) := by
  have occupied := occupied_of_run? run
  constructor
  · rw [BacktestState.isSettled, Bool.not_eq_true', ← Bool.not_eq_true,
      BacktestRunner.isActive_cancel_iff, occupied.gaveUp_iff free, not_iff_not]
    constructor
    · rintro ⟨unheld, active⟩
      cases slot : x.runner.slot with
      | submitting => rfl
      | polling job => exact absurd slot (occupied.unshown unheld job)
      | idle | completed _ | failed _ _ =>
          rw [slot] at active
          cases active
    · intro submitting
      exact ⟨occupied.unheld submitting, by rw [submitting]; rfl⟩
  · intro gaveUp
    have unheld := occupied.unheld ((occupied.gaveUp_iff free).mp gaveUp)
    refine ⟨BacktestRunner.cancel_of_unheld unheld, fun later y goesOn none => ?_,
      fun request => ?_⟩
    · have after := occupied_of_run? (runFrom?_trans run goesOn)
      exact after.submitting_iff.mpr (Or.inr (gaveUp.append none))
    · simp only [step?, free, BacktestRunner.begin_of_unheld unheld]
      exact ⟨_, rfl⟩

/-- A submission is given up, the next one is made and taken, and its job is polled: cancelling
frees the slot. -/
theorem cancel_isSettled_after_resubmission :
    ∃ x job, (start 1000).run?
        ([.run plainRequest, .abandon, .cancel] ++ firstReport "job-1" "running") = some x ∧
      x.runner.slot = .polling job ∧ x.runner.cancel.slot.isSettled = true := by
  obtain ⟨x, job, run, free, polling⟩ :
      ∃ x job, (start 1000).run?
          ([.run plainRequest, .abandon, .cancel] ++ firstReport "job-1" "running") = some x ∧
        x.caller = .free ∧ x.runner.slot = .polling job := ⟨_, _, rfl, rfl, rfl⟩
  refine ⟨x, job, run, polling, (cancel_isSettled_iff run free).1.mpr fun gaveUp => ?_⟩
  rw [(occupied_of_run? run).gaveUp_iff free, polling] at gaveUp
  cases gaveUp

/-- **Cancelling leaves the slot taken** by a submission that was given up while it waited for its
reply: the caller is free, and the slot is active still. -/
theorem cancel_leaves_submitting :
    ∃ x, (start 1000).run? [.run plainRequest, .abandon] = some x ∧ x.caller = .free ∧
      x.runner.cancel.slot = .submitting ∧ x.runner.cancel.slot.isActive = true :=
  ⟨_, rfl, rfl, rfl, rfl⟩

end BacktestExecution

end StrategyDesk
