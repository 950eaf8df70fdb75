import StrategyDesk.Proofs.Gateway.Execution

/-!
# Terminal states of the gateway

A terminal state in the slot is kept until an action changes it, unless a launch poll is still at
work beside it.  A stop and a new launch cancel the launch poll before they write the slot.  A start
that is answered with a gateway that runs already writes the slot and leaves the launch poll as it
is: this is the only way to a terminal state that is not kept.

## Main Definitions

* `GatewayExecution.Stable` — the slot is kept until an action changes it
* `GatewayExecution.Quiet` — no launch poll can change the slot any more

## Main Statements

* `GatewayExecution.stable_iff_quiet` — a terminal state is kept exactly when all is quiet
* `GatewayExecution.Step.live_beside_terminal` — where a launch poll beside a terminal state comes
  from
* `GatewayExecution.terminal_stable_iff_quiet` — both, for every run
* `GatewayExecution.terminal_overwritten_by_live_poll` — a terminal state that is not kept
-/

namespace StrategyDesk

namespace GatewayExecution

/-- The slot keeps its value as long as no action writes another one. -/
def Stable (x : GatewayExecution) : Prop :=
  ∀ later y, x.run? later = some y →
    (∀ event ∈ later, ∀ state, event.writes = some state → state = x.controller.slot) →
    y.controller.slot = x.controller.slot

/-- A live launch poll, if there is one, is about to publish what the slot shows already. -/
def Quiet (x : GatewayExecution) : Prop :=
  ∀ (i : Nat) (poll : LaunchPoll), x.controller.loops[i]? = some poll → poll.isLive = true →
    ∃ report, poll.stage = .holding report ∧ report.state poll.subject = x.controller.slot

variable {x y : GatewayExecution} {event : GatewayEvent} {events : List GatewayEvent}
variable {effects : Effects} {i : Nat} {poll : LaunchPoll}

/-- An event of a launch poll that has come so far can happen. -/
theorem step?_loop (found : x.controller.loops[i]? = some poll)
    {next : LoopEvent GatewayReport} (fits : next.fits poll.stage = true) :
    x.step? (.loop i (.step next)) =
      some ({ x with controller := (x.controller.advance i next).1 },
        (x.controller.advance i next).2) := by
  simp only [step?, found, fits, if_true]

/-- What has become of a launch poll after its event. -/
theorem getElem?_advance (found : x.controller.loops[i]? = some poll)
    {next : LoopEvent GatewayReport} (fits : next.fits poll.stage = true) :
    (x.controller.advance i next).1.loops[i]? = some (poll.advance LaunchPoll.enter next) := by
  rw [Controller.advance_loops found fits]
  exact PollLoops.getElem?_update_self _ _ found

/-! ## A live launch poll unsettles the slot -/

/-- Launch polls alone can put the slot into a state that is not terminal. -/
def Unsettled (x : GatewayExecution) : Prop :=
  ∃ later y, x.run? later = some y ∧ (∀ event ∈ later, event.writes = none) ∧
    y.controller.slot.isTerminal = false

theorem Unsettled.of_step {next : LaunchEvent}
    (step : x.step? (.loop i next) = some (y, effects)) (unsettled : Unsettled y) :
    Unsettled x := by
  obtain ⟨later, z, run, unwritten, moved⟩ := unsettled
  refine ⟨.loop i next :: later, z, ?_, ?_, moved⟩
  · rw [run?, runFrom?_cons, step]
    exact run
  · intro event member
    rcases List.mem_cons.mp member with rfl | inLater
    · rfl
    · exact unwritten event inLater

theorem unsettled_of_holding {report : GatewayReport}
    (found : x.controller.loops[i]? = some poll) (holding : poll.stage = .holding report)
    (notCancelled : poll.cancelled = false)
    (goesOn : (report.state poll.subject).isTerminal = false) : Unsettled x := by
  have fits : LoopEvent.publish.fits poll.stage = true := by rw [holding]; rfl
  refine Unsettled.of_step (step?_loop found fits) ⟨[], _, rfl, ?_, ?_⟩
  · intro event member
    exact absurd member List.not_mem_nil
  · rw [Controller.publish_slot found holding notCancelled]
    exact goesOn

theorem unsettled_of_asking (found : x.controller.loops[i]? = some poll)
    (asking : poll.stage = .asking) (notCancelled : poll.cancelled = false) : Unsettled x := by
  -- The report may say that the launch goes on.
  let next : LoopEvent GatewayReport := .receive (.ok (launchReport "running"))
  have fits : next.fits poll.stage = true := by rw [asking]; rfl
  have later : poll.advance LaunchPoll.enter next =
      { poll with stage := .holding (launchReport "running") } := by
    simp [next, PollLoop.advance, PollLoop.receive, asking, notCancelled]
  have there := getElem?_advance found fits
  rw [later] at there
  exact Unsettled.of_step (step?_loop found fits)
    (unsettled_of_holding there rfl notCancelled rfl)

theorem unsettled_of_ticked (found : x.controller.loops[i]? = some poll)
    (ticked : poll.stage = .ticked) (notCancelled : poll.cancelled = false) : Unsettled x := by
  have fits : LoopEvent.ask.fits poll.stage = true := by rw [ticked]; rfl
  have later : poll.advance LaunchPoll.enter .ask = { poll with stage := .asking } := by
    simp [PollLoop.advance, PollLoop.ask, ticked, notCancelled]
  have there := getElem?_advance found fits
  rw [later] at there
  exact Unsettled.of_step (step?_loop found fits) (unsettled_of_asking there rfl notCancelled)

theorem unsettled_of_waiting (found : x.controller.loops[i]? = some poll)
    (waiting : poll.stage = .waiting) (notCancelled : poll.cancelled = false) : Unsettled x := by
  have fits : (LoopEvent.serve 0).fits poll.stage = true := by rw [waiting]; rfl
  have later : poll.advance LaunchPoll.enter (.serve 0) =
      { poll with ticker := poll.ticker.serve 0, stage := .ticked } := by
    simp [PollLoop.advance, PollLoop.serve, waiting, notCancelled]
  have there := getElem?_advance found fits
  rw [later] at there
  exact Unsettled.of_step (step?_loop found fits) (unsettled_of_ticked there rfl notCancelled)

/-- A terminal state that is kept cannot be unsettled. -/
theorem Stable.not_unsettled (stable : Stable x)
    (terminal : x.controller.slot.isTerminal = true) : ¬ Unsettled x := by
  rintro ⟨later, y, run, unwritten, moved⟩
  have kept := stable later y run fun event member state written => by
    rw [unwritten event member] at written
    cases written
  rw [kept, terminal] at moved
  cases moved

theorem Stable.quiet (stable : Stable x) (terminal : x.controller.slot.isTerminal = true) :
    Quiet x := by
  intro i poll found live
  -- A live launch poll that has no report yet may still be told that its launch goes on.
  have unsettled := stable.not_unsettled terminal
  obtain ⟨notCancelled, notReturned⟩ := poll.isLive_iff.mp live
  cases stage : poll.stage with
  | waiting => exact absurd (unsettled_of_waiting found stage notCancelled) unsettled
  | ticked => exact absurd (unsettled_of_ticked found stage notCancelled) unsettled
  | asking => exact absurd (unsettled_of_asking found stage notCancelled) unsettled
  | returned =>
      rw [stage] at notReturned
      cases notReturned
  | holding report =>
      have fits : LoopEvent.publish.fits poll.stage = true := by rw [stage]; rfl
      have run : x.run? [.loop i .publish] =
          some { x with controller := (x.controller.advance i .publish).1 } := by
        rw [run?, runFrom?_cons, step?_loop found fits]
        rfl
      have kept := stable _ _ run fun event member state written => by
        rw [List.mem_singleton.mp member] at written
        cases written
      refine ⟨report, rfl, ?_⟩
      rw [← kept]
      exact (Controller.publish_slot found stage notCancelled).symm

/-! ## When all is quiet a terminal state is kept -/

/-- When all is quiet, a launch poll at work publishes what the slot shows and returns, or was
cancelled. -/
theorem Quiet.loop (quiet : Quiet x) (terminal : x.controller.slot.isTerminal = true)
    {next : LoopEvent GatewayReport} (found : x.controller.loops[i]? = some poll)
    (fits : next.fits poll.stage = true) :
    (x.controller.advance i next).1.slot = x.controller.slot ∧
      (poll.advance LaunchPoll.enter next).isLive = false := by
  cases mark : poll.cancelled with
  | true =>
      have stays := poll.advance_cancelled LaunchPoll.enter_cancelled next
      refine ⟨(Controller.advance_of_cancelled found mark next).1, ?_⟩
      simp [PollLoop.isLive, stays, mark]
  | false =>
      -- The launch poll is live, and so has a report in hand.
      have live := poll.isLive_iff.mpr ⟨mark, LoopEvent.hasReturned_of_fits fits⟩
      obtain ⟨report, holding, shown⟩ := quiet i poll found live
      cases next with
      | serve _ | ask | receive _ => simp [LoopEvent.fits, holding] at fits
      | publish =>
          have ends : (report.state poll.subject).isTerminal = true := by rw [shown, terminal]
          refine ⟨(Controller.publish_slot found holding mark).trans shown, ?_⟩
          have returned := LaunchPoll.enter_stage_of_isTerminal holding ends
          simp [PollLoop.isLive, PollLoop.advance, returned, LoopStage.hasReturned]

/-- Nothing but an action changes a terminal state when all is quiet, and all stays quiet. -/
theorem Step.quiet (step : Step x event y effects) (quiet : Quiet x)
    (terminal : x.controller.slot.isTerminal = true)
    (unwritten : ∀ state, event.writes = some state → state = x.controller.slot) :
    y.controller.slot = x.controller.slot ∧ Quiet y := by
  cases step with
  | refused _ _ | asked _ _ | concluded _ _ _ _ _ | abandoned _ | announced _ =>
      exact ⟨rfl, quiet⟩
  | stopped _ =>
      have same := unwritten .idle rfl
      rw [← same] at terminal
      cases terminal
  | launched now _ launch =>
      have same := unwritten _ (by rw [GatewayEvent.writes, launch]; rfl)
      rw [← same] at terminal
      cases terminal
  | @alreadyRunning _ pid _ now _ launch =>
      have same : .running pid = x.controller.slot :=
        unwritten _ (by rw [GatewayEvent.writes, launch]; rfl)
      refine ⟨same, ?_⟩
      intro i poll found live
      obtain ⟨report, holding, shown⟩ := quiet i poll found live
      exact ⟨report, holding, shown.trans same.symm⟩
  | dropped _ =>
      refine ⟨rfl, ?_⟩
      intro i poll found live
      obtain ⟨old, there, rfl | rfl⟩ := PollLoops.getElem?_release_eq_some _ found
      · exact quiet i poll there live
      · cases live
  | @loop i next poll found fits =>
      obtain ⟨same, dead⟩ := quiet.loop terminal found fits
      refine ⟨same, ?_⟩
      intro j later there live
      rw [Controller.advance_loops found fits] at there
      rcases PollLoops.getElem?_update_eq_some _ there with ⟨rfl, old, before, rfl⟩ | ⟨-, before⟩
      · rw [found] at before
        obtain rfl := Option.some.inj before
        rw [dead] at live
        cases live
      · obtain ⟨report, holding, shown⟩ := quiet j later before live
        exact ⟨report, holding, shown.trans same.symm⟩

theorem Quiet.stable (quiet : Quiet x) (terminal : x.controller.slot.isTerminal = true) :
    Stable x := by
  intro later y run unwritten
  refine (run?_invariant
    (fun event => ∀ state, event.writes = some state → state = x.controller.slot)
    (fun y => y.controller.slot = x.controller.slot ∧ Quiet y) ⟨rfl, quiet⟩ ?_ run unwritten).1
  intro y event z effects unwritten before step
  obtain ⟨same, quiet⟩ := before
  obtain ⟨kept, stillQuiet⟩ := step.quiet quiet (same ▸ terminal) (same ▸ unwritten)
  exact ⟨kept.trans same, stillQuiet⟩

/-- **A terminal state is kept exactly when all is quiet.** -/
theorem stable_iff_quiet (terminal : x.controller.slot.isTerminal = true) :
    Stable x ↔ Quiet x :=
  ⟨fun stable => stable.quiet terminal, fun quiet => quiet.stable terminal⟩

/-! ## Where a launch poll beside a terminal state comes from -/

/-- **A launch poll is at work beside a terminal state** only if it was at work before the event,
and either the slot was kept by the event, or a start was answered with a gateway that runs
already. -/
theorem Step.live_beside_terminal (step : Step x event y effects) (tidy : x.controller.Tidy)
    (terminal : y.controller.slot.isTerminal = true)
    (found : y.controller.loops[i]? = some poll) (live : poll.isLive = true) :
    (∃ before, x.controller.loops[i]? = some before ∧ before.isLive = true) ∧
    (y.controller.slot = x.controller.slot ∨ ∃ answer now pid message,
      event = .answered .gatewayStart (.ok answer) now ∧
      answer.launch = .alreadyRunning pid message) := by
  cases step with
  | refused _ _ | asked _ _ | concluded _ _ _ _ _ | abandoned _ | announced _ =>
      exact ⟨⟨poll, found, live⟩, Or.inl rfl⟩
  | stopped _ | launched _ _ _ => cases terminal
  | @alreadyRunning answer pid message now _ launch =>
      exact ⟨⟨poll, found, live⟩, Or.inr ⟨answer, now, pid, message, rfl, launch⟩⟩
  | dropped _ =>
      have cancelled := tidy.cancelled_of_release found
      rw [poll.cancelled_of_isLive live] at cancelled
      cases cancelled
  | @loop k next asked there fits =>
      have notReturned := LoopEvent.hasReturned_of_fits fits
      have before : ∃ before, x.controller.loops[i]? = some before ∧ before.isLive = true := by
        rw [Controller.advance_loops there fits] at found
        rcases PollLoops.getElem?_update_eq_some _ found with ⟨rfl, old, stood, rfl⟩ | ⟨-, stood⟩
        · rw [there] at stood
          obtain rfl := Option.some.inj stood
          have notCancelled := PollLoop.cancelled_of_isLive _ live
          rw [PollLoop.advance_cancelled _ LaunchPoll.enter_cancelled] at notCancelled
          exact ⟨asked, there, asked.isLive_iff.mpr ⟨notCancelled, notReturned⟩⟩
        · exact ⟨poll, stood, live⟩
      refine ⟨before, ?_⟩
      rcases Controller.advance_slot_cases there fits with
        same | ⟨rfl, notCancelled, report, holding, written⟩
      · exact Or.inl same
      · -- The launch poll that has published returns, and no other one was live.
        obtain ⟨old, stood, wasLive⟩ := before
        have itself := tidy.live_unique there stood
          (asked.isLive_iff.mpr ⟨notCancelled, notReturned⟩) wasLive
        subst itself
        rw [getElem?_advance there fits] at found
        obtain rfl := Option.some.inj found
        rw [written] at terminal
        have returned := LaunchPoll.enter_stage_of_isTerminal holding terminal
        simp [PollLoop.isLive, PollLoop.advance, returned, LoopStage.hasReturned] at live

/-! ## Terminal states after every run -/

/-- **A terminal state is kept exactly when no launch poll can change it**, after every run.  A
launch poll is at work beside a terminal state only if the slot was just kept, or a start was
answered with a gateway that runs already, while the launch poll was at work.  What a launch poll
itself makes terminal is kept. -/
theorem terminal_stable_iff_quiet {cadence : Cadence}
    (run : (start cadence).run? events = some x) :
    (x.controller.slot.isTerminal = true → (Stable x ↔ Quiet x)) ∧
    (∀ event y effects, x.step? event = some (y, effects) →
      y.controller.slot.isTerminal = true →
      ∀ (i : Nat) (poll : LaunchPoll), y.controller.loops[i]? = some poll → poll.isLive = true →
        (∃ before, x.controller.loops[i]? = some before ∧ before.isLive = true) ∧
        (y.controller.slot = x.controller.slot ∨ ∃ answer now pid message,
          event = .answered .gatewayStart (.ok answer) now ∧
          answer.launch = .alreadyRunning pid message)) ∧
    (∀ i next y effects, x.step? (.loop i next) = some (y, effects) →
      y.controller.slot ≠ x.controller.slot → y.controller.slot.isTerminal = true → Stable y) := by
  have tidy := tidy_of_run? run
  refine ⟨stable_iff_quiet, ?_, ?_⟩
  · intro event y effects step terminal i poll found live
    exact (step_of_step? step).live_beside_terminal tidy terminal found live
  · intro i next y effects step changed terminal
    refine Quiet.stable ?_ terminal
    intro j poll found live
    obtain ⟨-, same | ⟨_, _, _, _, impossible, -⟩⟩ :=
      (step_of_step? step).live_beside_terminal tidy terminal found live
    · exact absurd same changed
    · cases impossible

/-- A gateway that a launch poll has seen running stays shown as running. -/
theorem terminal_stable_after_launch :
    ∃ x y effects, (start plainCadence).run? (firstLaunch "job-1" ++
        [.loop 0 (.receive (.ok ⟨"running", none, true, some 7⟩))]) = some x ∧
      x.step? (.loop 0 .publish) = some (y, effects) ∧
      y.controller.slot = .running (some 7) ∧ Stable y := by
  obtain ⟨x, y, effects, run, before, step, after⟩ :
      ∃ x y effects, (start plainCadence).run? (firstLaunch "job-1" ++
          [.loop 0 (.receive (.ok ⟨"running", none, true, some 7⟩))]) = some x ∧
        x.controller.slot = .starting "job-1" startingText ∧
        x.step? (.loop 0 .publish) = some (y, effects) ∧
        y.controller.slot = .running (some 7) := ⟨_, _, _, rfl, rfl, rfl, rfl⟩
  have changed : y.controller.slot ≠ x.controller.slot := by
    rw [before, after]
    exact nofun
  have terminal : y.controller.slot.isTerminal = true := by
    rw [after]
    rfl
  exact ⟨x, y, effects, run, step, after,
    (terminal_stable_iff_quiet run).2.2 0 .publish y effects step changed terminal⟩

/-- A start that is answered with a gateway that runs already, while the launch poll waits for a
report: the report that the launch goes on overwrites the running gateway. -/
theorem terminal_overwritten_by_live_poll :
    ∃ x y effects, (start plainCadence).run? (firstLaunch "job-1" ++
        [.execute .gatewayStart,
          .answered .gatewayStart (.ok ⟨"already_running", none, none, some 7⟩) 1200,
          .loop 0 (.receive (.ok (launchReport "running")))]) = some x ∧
      x.controller.slot = .running (some 7) ∧
      x.step? (.loop 0 .publish) = some (y, effects) ∧
      y.controller.slot = .starting "job-1" startingText :=
  ⟨_, _, _, rfl, rfl, rfl, rfl⟩

end GatewayExecution

end StrategyDesk
