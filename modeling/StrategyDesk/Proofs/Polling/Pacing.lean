import StrategyDesk.Proofs.Backtest.Execution
import StrategyDesk.Proofs.Gateway.Refreshes
import StrategyDesk.Proofs.Polling.Clock

/-!
# When backtests and launches are polled

A backtest is polled as soon as it was submitted, a launch one period after it was begun; then once
in every period, as long as the engine replies in time. A question that comes late puts off those
after it.

## Main Definitions

* `BacktestExecution.pollers`, `GatewayExecution.pollers` — the runner and the controller as owners
  of loops
* `BacktestExecution.clock`, `GatewayExecution.clock` — the beginning of all executions

## Main Statements

* `polls_are_paced` — one question at a time, no sooner than a period after the one before but for
  the grace, and each on time when nothing is held up

## Design Notes

A loop begins to run in the moment in which it is started, and asks in the moment in which it has
served its tick.
-/

namespace StrategyDesk

/-! ## Backtests -/

namespace BacktestLoop

/-- A loop that has entered a report waits, or has returned. -/
theorem enters : PollLoop.Enters enter where
  ticker loop := by
    unfold enter
    split <;> rfl
  cancelled := enter_cancelled
  stage loop report holding := by
    rw [enter_of_holding holding]
    dsimp only
    split
    · exact Or.inr rfl
    · exact Or.inl rfl

end BacktestLoop

namespace BacktestExecution

/-- The runner as an owner of loops. The first question is due at once. -/
def pollers : Pollers BacktestExecution BacktestEvent BacktestJob BacktestProgress where
  loops x := x.runner.loops
  period x := x.runner.interval
  first := .start
  headStart := 0
  step? x event := (x.step? event).map (·.1)
  enter := BacktestLoop.enter
  told
    | .loop i what => some (i, what)
    | .run _ | .answered .. | .abandon | .cancel | .drop => none
  asks x
    | .loop i what => (x.runner.advance i what).2.isSome
    | .run _ | .answered .. | .abandon | .cancel | .drop => false
  reads
    | .answered _ now | .loop _ (.serve now) => some now
    | .loop _ .ask | .loop _ (.receive _) | .loop _ .publish => none
    | .run _ | .abandon | .cancel | .drop => none
  enters := BacktestLoop.enters
  period_first _ _ := rfl
  due_first _ _ := by simp [Ticker.start]
  period_step step := by
    obtain ⟨⟨y, calls⟩, taken, rfl⟩ := Option.map_eq_some_iff.mp step
    exact (step_of_step? taken).interval
  reads_serve := by
    rintro (_ | _ | _ | _ | _ | ⟨i, what⟩) j now told
    all_goals cases told
    rfl
  asks_iff := by
    rintro x (_ | _ | _ | _ | _ | ⟨i, what⟩) j loop told found
    all_goals cases told
    simp [BacktestRunner.advance, BacktestRunner.ask, PollLoops.ask, found]
  loops_told := by
    intro x y event i what step told
    obtain ⟨⟨y, calls⟩, taken, rfl⟩ := Option.map_eq_some_iff.mp step
    cases step_of_step? taken with
    | loop found fits =>
        cases told
        exact ⟨_, found, fits, congrArg _ (BacktestRunner.advance_loops found fits)⟩
    | refused | begun | answered | abandoned | cancelled | dropped => cases told
  loops_other := by
    intro x y event step told
    obtain ⟨⟨y, calls⟩, taken, rfl⟩ := Option.map_eq_some_iff.mp step
    cases step_of_step? taken with
    | loop found fits => cases told
    | refused _ _ | abandoned _ => exact .same _
    | begun _ ready =>
        rw [BacktestRunner.begin_eq_ok ready]
        dsimp only
        rw [BacktestRunner.cancel_toPollLoops]
        exact .release
    | cancelled _ | dropped _ =>
        dsimp only
        rw [BacktestRunner.cancel_toPollLoops]
        exact .release
    | answered reply now _ =>
        cases reply with
        | error e => exact .same _
        | ok id => exact .start ⟨_, now, rfl, rfl⟩

/-- The beginning of all executions, while a clock runs. -/
def clock (interval now : Nat) : Clocked BacktestExecution := ⟨now, start interval, []⟩

end BacktestExecution

/-! ## Launches -/

namespace LaunchPoll

/-- A launch poll that has entered a report waits, or has returned. -/
theorem enters : PollLoop.Enters enter where
  ticker poll := by
    unfold enter
    split <;> rfl
  cancelled := enter_cancelled
  stage poll report holding := by
    simp only [enter, holding]
    split
    · exact Or.inr rfl
    · exact Or.inl rfl

end LaunchPoll

namespace GatewayExecution

/-- The controller as an owner of loops. The first question is due after a period. -/
def pollers : Pollers GatewayExecution GatewayEvent String GatewayReport where
  loops x := x.controller.loops
  period x := x.controller.cadence.poll
  first period now := (Ticker.start period now).serve now
  headStart := 1
  step? x event := (x.step? event).map (·.1)
  enter := LaunchPoll.enter
  told
    | .loop i (.step what) => some (i, what)
    | .loop _ .announce | .execute _ | .answered .. | .abandon | .drop => none
  asks x
    | .loop i (.step what) => !(x.controller.advance i what).2.calls.isEmpty
    | .loop _ .announce | .execute _ | .answered .. | .abandon | .drop => false
  reads
    | .answered _ _ now | .loop _ (.serve now) => some now
    | .loop _ .ask | .loop _ (.receive _) | .loop _ .publish | .loop _ .announce => none
    | .execute _ | .abandon | .drop => none
  enters := LaunchPoll.enters
  period_first _ _ := rfl
  due_first period now := by
    have onTime := @Ticker.serve_due_of_le (.start period now) now (Nat.le_add_right ..)
    rw [onTime, Nat.one_mul]
    rfl
  period_step step := by
    obtain ⟨⟨y, effects⟩, taken, rfl⟩ := Option.map_eq_some_iff.mp step
    exact congrArg Cadence.poll (step_of_step? taken).cadence
  reads_serve := by
    rintro (_ | _ | _ | _ | ⟨i, what | _⟩) j now told
    all_goals cases told
    rfl
  asks_iff := by
    rintro x (_ | _ | _ | _ | ⟨i, what | _⟩) j poll told found
    all_goals cases told
    cases asks : poll.ask.2 <;>
      simp [Controller.advance, Controller.ask, PollLoops.ask, found, asks]
  loops_told := by
    intro x y event i what step told
    obtain ⟨⟨y, effects⟩, taken, rfl⟩ := Option.map_eq_some_iff.mp step
    cases step_of_step? taken with
    | loop found fits =>
        cases told
        exact ⟨_, found, fits, congrArg _ (Controller.advance_loops found fits)⟩
    | refused | asked | stopped | launched | alreadyRunning | concluded | abandoned | dropped
    | announced => cases told
  loops_other := by
    intro x y event step told
    obtain ⟨⟨y, effects⟩, taken, rfl⟩ := Option.map_eq_some_iff.mp step
    cases step_of_step? taken with
    | loop found fits => cases told
    | refused _ _ | asked _ _ | alreadyRunning _ _ _ | concluded _ _ _ _ _ | abandoned _
    | announced _ => exact .same _
    | stopped _ | dropped _ => exact .release
    | launched now _ _ => exact .start ⟨_, now, rfl, rfl⟩

/-- The beginning of all executions, while a clock runs. -/
def clock (cadence : Cadence) (now : Nat) : Clocked GatewayExecution := ⟨now, start cadence, []⟩

end GatewayExecution

/-! ## The pace of both -/

/-- **Backtests and launches are polled at their pace.**  After every run, whatever the engine, the
callers and the clock do, of every loop that was ever started: of its questions as many have ended
as were asked, but for the one in flight, and each was asked a period after the one before, or at
most 5 ms earlier.  When its ticks were served as they fell due and no reply took longer than a
period, a backtest asked its questions one period apart from the moment in which its loop was
started, and a launch from a period after that; a loop that is live has asked all that were due. -/
theorem polls_are_paced :
    (∀ interval now events x,
      BacktestExecution.pollers.clockedRun? (BacktestExecution.clock interval now) events =
        some x →
      ∀ (i : Nat) loop, x.state.runner.loops[i]? = some loop → ∃ r, x.records[i]? = some r ∧
        r.asked.length = r.ended + loop.stage.isAsking.toNat ∧
        (r.asked.IsChain fun a b => a + interval ≤ b + 5) ∧
        (BacktestExecution.pollers.isPrompt (BacktestExecution.clock interval now) events = true →
          (∀ (k a : Nat), r.asked[k]? = some a → a = r.started + k * interval) ∧
          (loop.isLive = true → ∀ k, r.started + k * interval < x.now → k < r.asked.length))) ∧
    ∀ (cadence : Cadence) now events x,
      GatewayExecution.pollers.clockedRun? (GatewayExecution.clock cadence now) events = some x →
      ∀ (i : Nat) poll, x.state.controller.loops[i]? = some poll → ∃ r, x.records[i]? = some r ∧
        r.asked.length = r.ended + poll.stage.isAsking.toNat ∧
        (r.asked.IsChain fun a b => a + cadence.poll ≤ b + 5) ∧
        (GatewayExecution.pollers.isPrompt (GatewayExecution.clock cadence now) events = true →
          (∀ (k a : Nat), r.asked[k]? = some a → a = r.started + (k + 1) * cadence.poll) ∧
          (poll.isLive = true → ∀ k, r.started + (k + 1) * cadence.poll < x.now →
            k < r.asked.length)) := by
  constructor
  · intro interval now events x run i loop found
    exact Pollers.pace_of_run? run rfl rfl rfl found
  · intro cadence now events x run i poll found
    exact Pollers.pace_of_run? run rfl rfl rfl found

/-- A backtest that is polled every 100 ms. The first reply comes 3 ms after the second tick has
fallen due, and the third one when the fourth tick is missed by far. -/
def slowReplies : List (ClockedEvent BacktestEvent) :=
  [.event (.run plainRequest), .event (.answered (.ok "bt") 0),
    .event (.loop 0 (.serve 0)), .event (.loop 0 .ask), .pass 103,
    .event (.loop 0 (.receive (.error .unreachable))),
    .event (.loop 0 (.serve 103)), .event (.loop 0 .ask), .pass 7,
    .event (.loop 0 (.receive (.error .unreachable))), .pass 90,
    .event (.loop 0 (.serve 200)), .event (.loop 0 .ask), .pass 150,
    .event (.loop 0 (.receive (.error .unreachable))),
    .event (.loop 0 (.serve 350)), .event (.loop 0 .ask)]

/-- A launch that is polled every 100 ms; replies take 100 ms and 20 ms. -/
def quickReplies : List (ClockedEvent GatewayEvent) :=
  [.event (.execute .gatewayStart),
    .event (.answered .gatewayStart (.ok ⟨"launched", none, some "gw", none⟩) 40), .pass 100,
    .event (.loop 0 (.serve 140)), .event (.loop 0 .ask), .pass 100,
    .event (.loop 0 (.receive (.error .unreachable))),
    .event (.loop 0 (.serve 240)), .event (.loop 0 .ask), .pass 20,
    .event (.loop 0 (.receive (.error .unreachable))), .pass 60]

/-- Questions that come late by 3 ms and by 50 ms, and questions that come on time. -/
theorem polls_are_paced_slowReplies :
    ∃ x y r s,
      BacktestExecution.pollers.clockedRun? (BacktestExecution.clock 100 0) slowReplies = some x ∧
      x.records = [r] ∧ r.asked = [0, 103, 200, 350] ∧
      (r.asked.IsChain fun a b => a + 100 ≤ b + 5) ∧
      GatewayExecution.pollers.clockedRun? (GatewayExecution.clock ⟨100, 0, 0⟩ 40) quickReplies =
        some y ∧
      y.records = [s] ∧ s.asked = [140, 240] ∧ 240 = s.started + (1 + 1) * 100 := by
  obtain ⟨x, r, loop, slow, found, records, asked⟩ : ∃ x r loop,
      BacktestExecution.pollers.clockedRun? (BacktestExecution.clock 100 0) slowReplies = some x ∧
      x.state.runner.loops[0]? = some loop ∧ x.records = [r] ∧ r.asked = [0, 103, 200, 350] :=
    ⟨_, _, _, rfl, rfl, rfl, rfl⟩
  obtain ⟨y, s, poll, quick, there, noted, onTime, prompt⟩ : ∃ y s poll,
      GatewayExecution.pollers.clockedRun? (GatewayExecution.clock ⟨100, 0, 0⟩ 40) quickReplies =
        some y ∧
      y.state.controller.loops[0]? = some poll ∧ y.records = [s] ∧ s.asked = [140, 240] ∧
      GatewayExecution.pollers.isPrompt (GatewayExecution.clock ⟨100, 0, 0⟩ 40) quickReplies =
        true := ⟨_, _, _, rfl, rfl, rfl, rfl, rfl⟩
  obtain ⟨r', here, -, spaced, -⟩ := polls_are_paced.1 100 0 slowReplies x slow 0 loop found
  obtain ⟨s', its, -, -, punctual⟩ :=
    polls_are_paced.2 ⟨100, 0, 0⟩ 40 quickReplies y quick 0 poll there
  rw [records] at here
  rw [noted] at its
  obtain rfl : r = r' := Option.some.inj here
  obtain rfl : s = s' := Option.some.inj its
  refine ⟨x, y, r, s, slow, records, asked, spaced, quick, noted, onTime, ?_⟩
  exact (punctual prompt).1 1 240 (by rw [onTime]; rfl)

end StrategyDesk
