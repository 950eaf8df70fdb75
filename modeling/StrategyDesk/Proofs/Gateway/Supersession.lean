import StrategyDesk.Proofs.Gateway.Execution

/-!
# Launch polls that were superseded

A launch poll is cancelled by a stop of the gateway, by a later launch, and with the controller.
Its reply may still be on its way, and may arrive at any later moment.  It may also have shown the
end of its launch already, and be about to announce it: this is the one thing that it still does.

## Main Definitions

* `GatewayExecution.Tracked` — the invariant, which speaks of the events that have happened
* `GatewayExecution.Stopped` — the gateway was stopped, and nothing is polled
* `GatewayExecution.Ended` — a launch poll is live no more

## Main Statements

* `GatewayExecution.Step.tracked`, `GatewayExecution.Step.stopped_of_not_started` — what events keep
* `GatewayExecution.owed_of_ended` — what a launch poll that is live no more has refreshed is what
  it owed
* `GatewayExecution.launch_polls_superseded` — what follows for every run
* `GatewayExecution.superseded_poll_announces` — a launch poll that is overtaken by a stop when it
  has shown the end of its launch, and a launch without an id
-/

namespace StrategyDesk

/-- A report leaves a launch under way under its own name only. -/
theorem GatewayReport.jobId_of_starting {report : GatewayReport} {jobId id message : String}
    (starting : report.state jobId = .starting id message) : id = jobId := by
  unfold GatewayReport.state at starting
  split at starting
  · cases starting
  · split at starting
    · cases starting
    · split at starting
      · cases starting
      · exact (GatewayState.starting.inj starting).1.symm

namespace GatewayExecution

/-- What the events of a run tell of the launch polls and of the slot. -/
structure Tracked (events : List GatewayEvent) (x : GatewayExecution) : Prop where
  /-- There is a launch poll for each launch, in order. -/
  follow : x.controller.Follow id (launches events)
  /-- A launch that is shown to be under way is the last one. -/
  starting : ∀ jobId message, x.controller.slot = .starting jobId message →
    (launches events).getLast? = some jobId

/-- The gateway was stopped, and nothing is polled. -/
structure Stopped (x : GatewayExecution) : Prop where
  tidy : x.controller.Tidy
  idle : x.controller.slot = .idle
  free : x.controller.held = none

variable {x y : GatewayExecution} {event : GatewayEvent} {events : List GatewayEvent}
variable {effects : Effects}

/-! ## Launches under way -/

/-- The launch that a poll shows to be under way is the last one. -/
theorem Tracked.starting_of_loop (tracked : Tracked events x) {i : Nat}
    {next : LoopEvent GatewayReport} {poll : LaunchPoll}
    (found : x.controller.loops[i]? = some poll) (fits : next.fits poll.stage = true)
    {jobId message : String}
    (starting : (x.controller.advance i next).1.slot = .starting jobId message) :
    (launches events).getLast? = some jobId := by
  rcases Controller.advance_slot_cases found fits with
    same | ⟨-, notCancelled, report, -, written⟩
  · exact tracked.starting jobId message (same ▸ starting)
  · rw [written] at starting
    rw [GatewayReport.jobId_of_starting starting]
    exact (tracked.follow.getLast?_names found notCancelled).1

/-- The invariant holds after an event that tells of no launch, and at most lets a launch poll go
and writes something else into the slot. -/
theorem Tracked.quiet (tracked : Tracked events x) (untold : event.launched = [])
    (loops : y.controller.toPollLoops = x.controller.toPollLoops ∨
      y.controller.toPollLoops = x.controller.release)
    (slot : y.controller.slot = x.controller.slot ∨ y.controller.slot.isStarting = false) :
    Tracked (events ++ [event]) y := by
  refine ⟨?_, ?_⟩
  · rw [launches_concat, untold, List.append_nil]
    rcases loops with same | released
    · rw [same]
      exact tracked.follow
    · rw [released]
      exact tracked.follow.release
  · intro jobId message starting
    rw [launches_concat, untold, List.append_nil]
    rcases slot with same | other
    · exact tracked.starting jobId message (same ▸ starting)
    · rw [starting] at other
      cases other

/-- **Each event keeps the invariant.** -/
theorem Step.tracked (step : Step x event y effects) (tracked : Tracked events x) :
    Tracked (events ++ [event]) y := by
  cases step with
  | refused _ other | asked _ other =>
      have unwritten := GatewayEvent.writes_execute_of_ne other
      exact tracked.quiet (GatewayEvent.launched_of_writes_eq_none unwritten) (Or.inl rfl)
        (Or.inl rfl)
  | concluded _ _ _ _ unwritten =>
      exact tracked.quiet (GatewayEvent.launched_of_writes_eq_none unwritten) (Or.inl rfl)
        (Or.inl rfl)
  | abandoned _ => exact tracked.quiet rfl (Or.inl rfl) (Or.inl rfl)
  | announced _ => exact tracked.quiet rfl (Or.inl rfl) (Or.inl rfl)
  | stopped _ => exact tracked.quiet rfl (Or.inr rfl) (Or.inr rfl)
  | dropped _ => exact tracked.quiet rfl (Or.inr rfl) (Or.inl rfl)
  | alreadyRunning now _ launch =>
      refine tracked.quiet ?_ (Or.inl rfl) (Or.inr rfl)
      rw [GatewayEvent.launched, launch]
      rfl
  | @launched answer jobId now _ launch =>
      have told : (GatewayEvent.answered .gatewayStart (.ok answer) now).launched = [jobId] := by
        rw [GatewayEvent.launched, launch]
        rfl
      refine ⟨?_, ?_⟩
      · rw [launches_concat, told]
        exact tracked.follow.start rfl
      · intro shown message starting
        obtain ⟨rfl, -⟩ := GatewayState.starting.inj starting
        rw [launches_concat, told]
        exact List.getLast?_concat
  | @loop i next poll found fits =>
      have untold : launches (events ++ [.loop i (.step next)]) = launches events := by
        rw [launches_concat, GatewayEvent.launched, List.append_nil]
      refine ⟨?_, ?_⟩
      · rw [untold, Controller.advance_loops found fits]
        exact tracked.follow.update i
          (fun l => l.advance_cancelled LaunchPoll.enter_cancelled next)
          fun l => LaunchPoll.advance_subject next
      · intro jobId message starting
        rw [untold]
        exact tracked.starting_of_loop found fits starting

/-- **Without a start that is answered, a stopped gateway stays stopped.** -/
theorem Step.stopped_of_not_started (step : Step x event y effects) (stopped : Stopped x)
    (notStarted : ∀ state, event.writes = some state → state = .idle) : Stopped y := by
  refine ⟨step.evolves.tidy stopped.tidy, ?_, ?_⟩
  · by_cases publishes : ∃ i, event = .loop i .publish
    · obtain ⟨i, rfl⟩ := publishes
      cases step with
      | loop found fits =>
          -- Nothing is held, so that the launch poll was cancelled.
          have cancelled := stopped.tidy.cancelled_of_held_eq_none stopped.free found
          exact (Controller.advance_of_cancelled found cancelled _).1.trans stopped.idle
    · rw [step.slot fun i same => publishes ⟨i, same⟩]
      cases written : event.writes with
      | none => exact stopped.idle
      | some state => exact notStarted state written
  · cases step with
    | loop found fits =>
        rw [Controller.advance_loops found fits]
        exact stopped.free
    | refused _ _ | asked _ _ | concluded _ _ _ _ _ | abandoned _ | alreadyRunning _ _ _
    | announced _ => exact stopped.free
    | stopped _ | dropped _ => exact PollLoops.release_held _
    | launched now _ launch =>
        have idle := notStarted _ (by rw [GatewayEvent.writes, launch]; rfl)
        cases idle

/-- The launch poll at a place is live no more. -/
def Ended (x : GatewayExecution) (i : Nat) : Prop :=
  ∃ poll, x.controller.loops[i]? = some poll ∧ poll.isLive = false

theorem ended_of_cancelled {i : Nat} (cancelled : x.controller.Cancelled i) : x.Ended i := by
  obtain ⟨poll, found, mark⟩ := cancelled
  exact ⟨poll, found, by simp [PollLoop.isLive, mark]⟩

/-- What a launch poll owes can be announced at once. -/
theorem step?_announce {i : Nat} (owed : x.controller.owes i ≠ .never) :
    x.step? (.loop i .announce) =
      some ({ x with controller := x.controller.owe i .never }, ⟨[], x.controller.owes i⟩) := by
  simp only [step?, Controller.announce, if_neg owed]

/-- A launch poll that is live no more stays so. -/
theorem Step.ended (step : Step x event y effects) {i : Nat} (ended : x.Ended i) : y.Ended i := by
  obtain ⟨poll, found, notLive⟩ := ended
  have inside : i < x.controller.loops.length := (List.getElem?_eq_some_iff.mp found).1
  obtain ⟨later, there, same⟩ := PollLoops.exists_getElem?_release _ found
  have stillNot : later.isLive = false := by
    rcases same with rfl | rfl
    · exact notLive
    · rfl
  cases step with
  | refused _ _ | asked _ _ | alreadyRunning _ _ _ | concluded _ _ _ _ _ | abandoned _
  | announced _ => exact ⟨poll, found, notLive⟩
  | stopped _ | dropped _ => exact ⟨later, there, stillNot⟩
  | launched now _ _ =>
      exact ⟨later, (PollLoops.getElem?_start_lt _ _ inside).trans there, stillNot⟩
  | @loop k next told its fits =>
      rw [Ended, Controller.advance_loops its fits]
      by_cases same : k = i
      · -- What still goes on in its loop was cancelled.
        subst same
        obtain rfl := Option.some.inj (found.symm.trans its)
        refine ⟨_, PollLoops.getElem?_update_self _ _ found, ?_⟩
        have cancelled : poll.cancelled = true := by
          simpa [PollLoop.isLive, LoopEvent.hasReturned_of_fits fits] using notLive
        have stays := poll.advance_cancelled LaunchPoll.enter_cancelled next
        simp [PollLoop.isLive, stays, cancelled]
      · exact ⟨poll, (PollLoops.getElem?_update_ne _ _ same).trans found, notLive⟩

/-- A launch poll that is live no more pays what it owes, and owes nothing new. -/
theorem Step.owed_of_ended (step : Step x event y effects) {i : Nat} (ended : x.Ended i) :
    (if event.isOf i then effects.refresh.asked else []) ++ (y.controller.owes i).asked =
      (x.controller.owes i).asked := by
  rcases step.owes i with ⟨same, silent⟩ | ⟨rfl, -, ⟨poll, found, alive⟩, -⟩ | ⟨rfl, paid, nothing⟩
  · rw [same]
    split
    · next itsOwn => rw [silent itsOwn, Refresh.asked, List.nil_append]
    · rfl
  · obtain ⟨same, there, notLive⟩ := ended
    obtain rfl := Option.some.inj (found.symm.trans there)
    cases step with
    | loop its fits =>
        obtain rfl := Option.some.inj (found.symm.trans its)
        simp [PollLoop.isLive, alive, LoopEvent.hasReturned_of_fits fits] at notLive
  · simp [GatewayEvent.isOf, paid, nothing, Refresh.asked]

/-- **What a launch poll has refreshed when it is live no more, and what it still owes**, is what it
has owed from then on, whatever happens. -/
theorem owed_of_ended {i : Nat} (ended : x.Ended i) {later : List GatewayEvent}
    (run : x.run? later = some y) :
    x.refreshesBy i later ++ (y.controller.owes i).asked = (x.controller.owes i).asked := by
  induction later generalizing x with
  | nil =>
      obtain rfl := Option.some.inj run
      rfl
  | cons event rest ih =>
      rw [run?, runFrom?_cons, Option.bind_eq_some_iff] at run
      obtain ⟨middle, stepped, goesOn⟩ := run
      obtain ⟨⟨_, effects⟩, taken, rfl⟩ := Option.map_eq_some_iff.mp stepped
      have step := step_of_step? taken
      simp only [refreshesBy, taken]
      rw [List.append_assoc, ih (step.ended ended) goesOn]
      exact step.owed_of_ended ended

end GatewayExecution

end StrategyDesk
