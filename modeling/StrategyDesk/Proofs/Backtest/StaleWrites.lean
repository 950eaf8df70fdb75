import StrategyDesk.Proofs.Backtest.Execution
import StrategyDesk.Proofs.Backtest.Job

/-!
# No stale writes

Loops that were let go may still wait for replies while a later submission is polled, and their
replies may arrive at any later moment.  None of it reaches the slot: whatever job the slot names is
that of the last submission, and it is shown as the reports to the loop of that submission leave
it.

The loop at place `i` is the one that polls the `i`-th job that the engine took.

## Main Definitions

* `BacktestLoop.Took` — the reports that a loop has taken
* `BacktestState.ToldBy` — what the events of a run tell of a job in the slot
* `BacktestExecution.Traced` — the invariant, which speaks of the events that have happened

## Main Statements

* `BacktestExecution.Step.traced` — each event keeps the invariant
* `BacktestExecution.no_stale_writes` — what follows for every run
-/

namespace StrategyDesk

/-- The reports that a loop has taken are those entered into its job and the one in its hand. -/
def BacktestLoop.Took (reports : List BacktestProgress) (loop : BacktestLoop) : Prop :=
  ∃ entered, loop.subject = .after loop.subject.id entered ∧ entered ++ loop.inHand = reports

/-- A job in the slot is the last one that the engine took, as reports to its own loop leave it,
from the first one on. -/
def BacktestState.ToldBy (events : List BacktestEvent) (slot : BacktestState) : Prop :=
  ∀ id, slot.jobId? = some id → (submissions events).getLast? = some id ∧
    ∃ entered, entered <+: reportsTo ((submissions events).length - 1) events ∧
      slot = (BacktestJob.after id entered).state

namespace BacktestLoop

variable {loop : BacktestLoop}

@[simp] theorem enter_id : (enter loop).subject.id = loop.subject.id := by
  unfold enter
  split
  · exact loop.subject.apply_id _
  all_goals rfl

@[simp] theorem advance_id (event : LoopEvent BacktestProgress) :
    (loop.advance enter event).subject.id = loop.subject.id := by
  by_cases publishes : event = .publish
  · subst publishes
    exact enter_id
  · rw [loop.advance_subject_of_ne_publish publishes]

/-- A loop that was not cancelled has taken every report that came to it. -/
theorem Took.advance {reports : List BacktestProgress} (took : Took reports loop)
    (notCancelled : loop.cancelled = false) {event : LoopEvent BacktestProgress}
    (fits : event.fits loop.stage = true) :
    Took (reports ++ event.reports) (loop.advance enter event) := by
  obtain ⟨entered, subject, rfl⟩ := took
  by_cases publishes : event = .publish
  · subst publishes
    cases stage : loop.stage with
    | waiting | ticked | asking | returned => simp [LoopEvent.fits, stage] at fits
    | holding report =>
        refine ⟨entered ++ [report], ?_, ?_⟩
        · rw [advance_id, BacktestJob.after_concat, ← subject, PollLoop.advance,
            enter_of_holding stage]
        · rw [PollLoop.advance, enter_of_holding stage]
          have handed : loop.inHand = [report] := by simp [PollLoop.inHand, stage]
          rw [handed]
          unfold PollLoop.inHand
          cases (loop.subject.apply report).status.isTerminal <;> simp [LoopEvent.reports]
  · refine ⟨entered, ?_, ?_⟩
    · rw [loop.advance_subject_of_ne_publish publishes]
      exact subject
    · rw [loop.advance_inHand_of_ne_publish notCancelled fits publishes, List.append_assoc]

end BacktestLoop

namespace BacktestExecution

/-- What the events of a run tell of the loops and of the slot. -/
structure Traced (events : List BacktestEvent) (x : BacktestExecution) : Prop where
  /-- Each loop polls a job that the engine took, in order. -/
  follow : x.runner.Follow BacktestJob.id (submissions events)
  /-- A loop that was not cancelled has taken every report that came to it. -/
  took : ∀ i loop, x.runner.loops[i]? = some loop → loop.cancelled = false →
    BacktestLoop.Took (reportsTo i events) loop
  /-- Nothing comes to a loop that was not started. -/
  fresh : ∀ i, x.runner.loops.length ≤ i → reportsTo i events = []
  slot : x.runner.slot.ToldBy events

variable {x y : BacktestExecution} {event : BacktestEvent} {events : List BacktestEvent}
variable {calls : List Call}

namespace Traced

/-- The invariant holds after an event that tells of nothing, and at most lets a loop go and empties
the slot. -/
theorem quiet (traced : Traced events x) (untold : event.submitted = [])
    (unreported : ∀ i, event.reportsTo i = [])
    (loops : y.runner.toPollLoops = x.runner.toPollLoops ∨
      y.runner.toPollLoops = x.runner.release)
    (slot : y.runner.slot = x.runner.slot ∨ y.runner.slot.jobId? = none) :
    Traced (events ++ [event]) y := by
  have sameSubmissions : submissions (events ++ [event]) = submissions events := by
    rw [submissions_concat, untold, List.append_nil]
  have sameReports : ∀ i, reportsTo i (events ++ [event]) = reportsTo i events := by
    intro i
    rw [reportsTo_concat, unreported, List.append_nil]
  have slotTold : y.runner.slot.ToldBy (events ++ [event]) := by
    intro id named
    rw [sameSubmissions, sameReports]
    rcases slot with same | unnamed
    · rw [same] at named ⊢
      exact traced.slot id named
    · rw [unnamed] at named
      cases named
  rcases loops with same | released
  · refine ⟨?_, ?_, ?_, slotTold⟩
    · rw [same, sameSubmissions]
      exact traced.follow
    · intro i loop found notCancelled
      rw [same] at found
      rw [sameReports]
      exact traced.took i loop found notCancelled
    · intro i beyond
      rw [same] at beyond
      rw [sameReports]
      exact traced.fresh i beyond
  · refine ⟨?_, ?_, ?_, slotTold⟩
    · rw [released, sameSubmissions]
      exact traced.follow.release
    · intro i loop found notCancelled
      rw [released] at found
      have cancelled := traced.follow.tidy.cancelled_of_release found
      rw [notCancelled] at cancelled
      cases cancelled
    · intro i beyond
      rw [released, PollLoops.length_release] at beyond
      rw [sameReports]
      exact traced.fresh i beyond

/-- The invariant holds when the engine took a submission. -/
theorem taken (traced : Traced events x) (id : String) (now : Nat) :
    Traced (events ++ [.answered (.ok id) now]) ⟨x.runner.conclude (.ok id) now, .free⟩ := by
  have sameReports : ∀ i, reportsTo i (events ++ [.answered (.ok id) now]) =
      reportsTo i events := by
    intro i
    rw [reportsTo_concat, BacktestEvent.reportsTo, List.append_nil]
  have told : submissions (events ++ [.answered (.ok id) now]) = submissions events ++ [id] :=
    submissions_concat events _
  refine ⟨?_, ?_, ?_, ?_⟩
  · rw [told]
    exact traced.follow.start rfl
  · -- All loops but the new one were let go.
    intro i loop found notCancelled
    have held := (traced.follow.tidy.start rfl i).mpr ⟨loop, found, notCancelled⟩
    obtain rfl := Option.some.inj held
    rw [BacktestRunner.conclude, PollLoops.getElem?_start_last] at found
    obtain rfl := Option.some.inj found
    rw [sameReports, traced.fresh _ (Nat.le_refl _)]
    exact ⟨[], rfl, PollLoop.inHand_of_first _ rfl⟩
  · intro i beyond
    rw [sameReports]
    refine traced.fresh i ?_
    simp only [BacktestRunner.conclude, PollLoops.length_start] at beyond
    omega
  · intro jobId named
    obtain rfl := Option.some.inj named
    rw [told]
    exact ⟨List.getLast?_concat, [], List.nil_prefix, rfl⟩

/-- The slot is told by the events after a step of a loop. -/
theorem slot_after_loop (traced : Traced events x) {i : Nat} {next : LoopEvent BacktestProgress}
    {loop : BacktestLoop} (found : x.runner.loops[i]? = some loop)
    (fits : next.fits loop.stage = true) :
    (x.runner.advance i next).1.slot.ToldBy (events ++ [.loop i next]) := by
  intro id named
  rw [submissions_concat, BacktestEvent.submitted, List.append_nil, reportsTo_concat]
  rcases BacktestRunner.advance_slot_cases found fits with
    same | ⟨-, notCancelled, report, holding, written⟩
  · rw [same] at named ⊢
    obtain ⟨last, entered, before, shows⟩ := traced.slot id named
    exact ⟨last, entered, before.trans (List.prefix_append _ _), shows⟩
  · -- The loop has every report entered that came to it.
    obtain ⟨entered, subject, reports⟩ := traced.took i loop found notCancelled
    have handed : loop.inHand = [report] := by simp [PollLoop.inHand, holding]
    have shown : loop.subject.apply report =
        .after loop.subject.id (reportsTo i events) := by
      rw [← reports, handed, BacktestJob.after_concat, ← subject]
    rw [written, shown, BacktestJob.state_jobId?, BacktestJob.after_id] at named
    obtain rfl := Option.some.inj named
    obtain ⟨last, place⟩ := traced.follow.getLast?_names found notCancelled
    rw [← place]
    exact ⟨last, reportsTo i events, List.prefix_append _ _, by rw [written, shown]⟩

/-- The invariant holds after a step of a loop. -/
theorem loop (traced : Traced events x) {i : Nat} {next : LoopEvent BacktestProgress}
    {loop : BacktestLoop} (found : x.runner.loops[i]? = some loop)
    (fits : next.fits loop.stage = true) :
    Traced (events ++ [.loop i next]) { x with runner := (x.runner.advance i next).1 } := by
  have loops := BacktestRunner.advance_loops found fits
  have told : submissions (events ++ [.loop i next]) = submissions events := by
    rw [submissions_concat, BacktestEvent.submitted, List.append_nil]
  refine ⟨?_, ?_, ?_, ?_⟩
  · rw [loops, told]
    exact traced.follow.update i
      (fun l => l.advance_cancelled BacktestLoop.enter_cancelled next)
      fun l => BacktestLoop.advance_id next
  · intro j later there notCancelled
    rw [loops] at there
    rw [reportsTo_concat, BacktestEvent.reportsTo]
    rcases PollLoops.getElem?_update_eq_some _ there with
      ⟨rfl, old, before, rfl⟩ | ⟨different, before⟩
    · rw [found] at before
      obtain rfl := Option.some.inj before
      rw [PollLoop.advance_cancelled _ BacktestLoop.enter_cancelled] at notCancelled
      rw [if_pos rfl]
      -- What the loop has taken grows by what the event brought.
      exact (traced.took i loop found notCancelled).advance notCancelled fits
    · rw [if_neg different, List.append_nil]
      exact traced.took j later before notCancelled
  · intro j beyond
    rw [loops, PollLoops.length_update] at beyond
    have inside : i < x.runner.loops.length := (List.getElem?_eq_some_iff.mp found).1
    rw [reportsTo_concat, BacktestEvent.reportsTo, if_neg (by omega), List.append_nil]
    exact traced.fresh j beyond
  · exact traced.slot_after_loop found fits

end Traced

theorem start_traced (interval : Nat) : Traced [] (start interval) where
  follow := PollLoops.follow_none _
  took i loop found := by cases found
  fresh i _ := rfl
  slot id named := by cases named

/-- **Each event keeps the invariant.** -/
theorem Step.traced (step : Step x event y calls) (traced : Traced events x) :
    Traced (events ++ [event]) y := by
  cases step with
  | refused _ _ => exact traced.quiet rfl (fun _ => rfl) (Or.inl rfl) (Or.inl rfl)
  | abandoned _ => exact traced.quiet rfl (fun _ => rfl) (Or.inl rfl) (Or.inl rfl)
  | begun _ ready =>
      obtain rfl := BacktestRunner.begin_eq_ok ready
      exact traced.quiet rfl (fun _ => rfl) (Or.inr x.runner.cancel_toPollLoops) (Or.inr rfl)
  | cancelled _ | dropped _ =>
      refine traced.quiet rfl (fun _ => rfl) (Or.inr x.runner.cancel_toPollLoops) ?_
      rw [BacktestRunner.cancel_slot]
      split
      · exact Or.inr rfl
      · exact Or.inl rfl
  | answered reply now _ =>
      cases reply with
      | error e => exact traced.quiet rfl (fun _ => rfl) (Or.inl rfl) (Or.inr rfl)
      | ok id => exact traced.taken id now
  | loop found fits => exact traced.loop found fits

/-- The invariant holds after every run. -/
theorem traced_of_run? {interval : Nat} (run : (start interval).run? events = some x) :
    Traced events x := by
  refine run?_induction Traced (start_traced interval) ?_ run
  intro _ y event z calls before step
  exact step.traced before

/-- A loop asks for the progress of the job that the engine took for its submission only. -/
theorem Traced.asks (traced : Traced events x) {i : Nat} {next : LoopEvent BacktestProgress}
    (step : x.step? (.loop i next) = some (y, calls)) :
    ∀ call ∈ calls, ∃ id, (submissions events)[i]? = some id ∧ call = .backtestProgress id := by
  cases step_of_step? step with
  | loop found fits =>
      intro call made
      obtain ⟨id, asked, rfl⟩ := List.mem_map.mp made
      rw [Option.mem_toList] at asked
      obtain ⟨loop, there, rfl⟩ := BacktestRunner.mem_advance_asked asked
      exact ⟨loop.subject.id, traced.follow.getElem?_names there, rfl⟩

end BacktestExecution

end StrategyDesk
