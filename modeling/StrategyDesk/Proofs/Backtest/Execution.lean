import StrategyDesk.Backtest.Runner
import StrategyDesk.Exchange.Call
import StrategyDesk.Proofs.Polling.Loops
import StrategyDesk.Proofs.Runs

/-!
# Executions of the backtest runner

The runner among those who use it: one caller, the engine that replies whenever it likes, and all
polling loops that were ever started. Everything happens in steps, in any order that these allow.

## Main Definitions

* `BacktestEvent` — what may happen next
* `BacktestExecution` — the runner, and what its caller is about
* `BacktestExecution.step?` — one event: the execution after it, and the calls made by it
* `BacktestExecution.run?` — events one after the other
* `BacktestExecution.Step` — what one event can do, case by case
* `submissions`, `reportsTo` — what the events of a run tell of the submissions and of the replies

## Main Statements

* `BacktestExecution.step_of_step?` — an event does one of the things that `Step` lists
* `BacktestRunner.publish_slot` — what a loop makes of the slot when it publishes
* `BacktestExecution.Step.evolves` — what an event does to the loops
-/

namespace StrategyDesk

/-! ## The steps of a loop -/

namespace BacktestLoop

@[simp] theorem enter_cancelled (loop : BacktestLoop) :
    (enter loop).cancelled = loop.cancelled := by
  unfold enter
  split <;> rfl

theorem enter_of_holding {loop : BacktestLoop} {report : BacktestProgress}
    (holding : loop.stage = .holding report) :
    enter loop =
      { loop with
        subject := loop.subject.apply report
        stage := if (loop.subject.apply report).status.isTerminal then .returned
          else .waiting } := by
  unfold enter
  rw [holding]

end BacktestLoop

namespace BacktestRunner

/-- What happens next to a loop, and the id of the job whose progress it asks for, if it does. -/
def advance (r : BacktestRunner) (i : Nat) :
    LoopEvent BacktestProgress → BacktestRunner × Option String
  | .serve now => (r.serve i now, none)
  | .ask => r.ask i
  | .receive answer => (r.receive i answer, none)
  | .publish => (r.publish i, none)

variable {r : BacktestRunner} {i : Nat} {loop : BacktestLoop}

theorem publish_of_holding {report : BacktestProgress} (found : r.loops[i]? = some loop)
    (holding : loop.stage = .holding report) :
    r.publish i =
      { r with
        toPollLoops := r.update i BacktestLoop.enter
        slot := if loop.cancelled then r.slot else (BacktestLoop.enter loop).subject.state } := by
  unfold publish
  rw [found]
  simp only [holding]

/-- An event of a loop that has come so far changes that loop only. -/
theorem advance_loops (found : r.loops[i]? = some loop) {event : LoopEvent BacktestProgress}
    (fits : event.fits loop.stage = true) :
    (r.advance i event).1.toPollLoops =
      r.update i fun l => l.advance BacktestLoop.enter event := by
  cases event with
  | serve now => rfl
  | ask => rfl
  | receive answer => rfl
  | publish =>
      cases stage : loop.stage with
      | holding report =>
          unfold advance
          rw [publish_of_holding found stage]
          rfl
      | waiting | ticked | asking | returned =>
          rw [stage] at fits
          cases fits

@[simp] theorem cancel_toPollLoops (r : BacktestRunner) : r.cancel.toPollLoops = r.release := by
  cases held : r.held with
  | none => simp [cancel, PollLoops.release, held]
  | some i => simp [cancel, held]

@[simp] theorem cancel_interval (r : BacktestRunner) : r.cancel.interval = r.interval := by
  unfold cancel
  split <;> rfl

/-- Cancelling frees the slot when a loop is held, unless its job has come to an end. -/
theorem cancel_slot (r : BacktestRunner) :
    r.cancel.slot = if r.held.isSome && r.slot.isActive then .idle else r.slot := by
  unfold cancel
  split
  case h_1 free => rw [free]; rfl
  case h_2 held => rw [held]; rfl

/-- A submission is turned down when a backtest is running, and for no other reason. -/
theorem begin_eq_error_iff {e : Error} :
    r.begin = .error e ↔
      e = .refused .backtestRunning ∧ r.isPolling = true ∧ r.slot.isActive = true := by
  unfold begin
  split
  case isTrue running => simp [running, eq_comm]
  case isFalse notRunning =>
      constructor
      · intro equal
        cases equal
      · rintro ⟨-, running⟩
        exact absurd running notRunning

/-- A submission that is not turned down takes the slot. -/
theorem begin_eq_ok {ready : BacktestRunner} (equal : r.begin = .ok ready) :
    ready = { r.cancel with slot := .submitting } := by
  unfold begin at equal
  split at equal
  · cases equal
  · exact (Except.ok.inj equal).symm

@[simp] theorem advance_interval (r : BacktestRunner) (i : Nat)
    (event : LoopEvent BacktestProgress) : (r.advance i event).1.interval = r.interval := by
  cases event with
  | serve now => rfl
  | ask => rfl
  | receive answer => rfl
  | publish =>
      simp only [advance, publish]
      split
      · rfl
      · split <;> rfl

/-- Only publishing touches the slot. -/
theorem advance_slot_of_ne_publish {event : LoopEvent BacktestProgress}
    (notPublish : event ≠ .publish) : (r.advance i event).1.slot = r.slot := by
  cases event with
  | serve now => rfl
  | ask => rfl
  | receive answer => rfl
  | publish => exact absurd rfl notPublish

/-- A loop that was not cancelled shows its job when it publishes; a cancelled one leaves the slot
as it is. -/
theorem publish_slot {report : BacktestProgress} (found : r.loops[i]? = some loop)
    (holding : loop.stage = .holding report) :
    (r.publish i).slot =
      if loop.cancelled then r.slot else (loop.subject.apply report).state := by
  rw [publish_of_holding found holding, BacktestLoop.enter_of_holding holding]

/-- Nothing that a cancelled loop does changes the slot or asks for anything. -/
theorem advance_of_cancelled (found : r.loops[i]? = some loop) (cancelled : loop.cancelled = true)
    (event : LoopEvent BacktestProgress) :
    (r.advance i event).1.slot = r.slot ∧ (r.advance i event).2 = none := by
  cases event with
  | serve now => exact ⟨rfl, rfl⟩
  | receive answer => exact ⟨rfl, rfl⟩
  | ask =>
      have silent := loop.ask_eq_false_of_cancelled cancelled
      exact ⟨rfl, by simp [advance, ask, PollLoops.ask, found, silent]⟩
  | publish =>
      refine ⟨?_, rfl⟩
      cases stage : loop.stage with
      | holding report =>
          have slot := publish_slot found stage
          rw [cancelled] at slot
          exact slot
      | waiting | ticked | asking | returned => simp [advance, publish, found, stage]

/-- A loop writes the slot only when it publishes and was not cancelled. -/
theorem advance_slot_cases (found : r.loops[i]? = some loop) {event : LoopEvent BacktestProgress}
    (fits : event.fits loop.stage = true) :
    (r.advance i event).1.slot = r.slot ∨
      event = .publish ∧ loop.cancelled = false ∧ ∃ report, loop.stage = .holding report ∧
        (r.advance i event).1.slot = (loop.subject.apply report).state := by
  cases mark : loop.cancelled with
  | true => exact Or.inl (advance_of_cancelled found mark event).1
  | false =>
      by_cases publishes : event = .publish
      · subst publishes
        cases stage : loop.stage with
        | waiting | ticked | asking | returned => simp [LoopEvent.fits, stage] at fits
        | holding report =>
            have slot := publish_slot found stage
            rw [mark] at slot
            exact Or.inr ⟨rfl, rfl, report, rfl, slot⟩
      · exact Or.inl (advance_slot_of_ne_publish publishes)

/-- A loop asks for the progress of its own job, if it asks at all. -/
theorem mem_advance_asked {event : LoopEvent BacktestProgress} {jobId : String}
    (asked : (r.advance i event).2 = some jobId) :
    ∃ loop, r.loops[i]? = some loop ∧ loop.subject.id = jobId := by
  cases event with
  | serve now => cases asked
  | receive answer => cases asked
  | publish => cases asked
  | ask =>
      simp only [advance, ask, PollLoops.ask, Option.map_eq_some_iff,
        Option.bind_eq_some_iff] at asked
      obtain ⟨job, ⟨loop, found, same⟩, rfl⟩ := asked
      split at same
      · exact ⟨loop, found, by rw [Option.some.inj same]⟩
      · cases same

end BacktestRunner

/-! ## Executions -/

/-- What may happen next. -/
inductive BacktestEvent where
  /-- The caller submits a backtest. -/
  | run (request : BacktestRequest)
  /-- The reply to a submission arrives. -/
  | answered (reply : Except Error String) (now : Nat)
  /-- The caller gives up a submission that waits for its reply. -/
  | abandon
  | cancel
  /-- The caller lets the runner go. -/
  | drop
  /-- Something happens to the loop at a place. -/
  | loop (i : Nat) (event : LoopEvent BacktestProgress)

/-- The runner, and what its caller is about. -/
structure BacktestExecution where
  runner : BacktestRunner
  caller : Caller BacktestRequest

namespace BacktestExecution

/-- The beginning of all executions. -/
def start (interval : Nat) : BacktestExecution := ⟨.new interval, .free⟩

/-- The execution after an event and the calls made by it, if the event can happen. -/
def step? (x : BacktestExecution) : BacktestEvent → Option (BacktestExecution × List Call)
  | .run request =>
    match x.caller with
    | .free =>
      match x.runner.begin with
      | .error _ => some (x, [])
      | .ok runner => some (⟨runner, .waiting request⟩, [.submitBacktest request])
    | .waiting _ | .gone => none
  | .answered reply now =>
    match x.caller with
    | .waiting _ => some (⟨x.runner.conclude reply now, .free⟩, [])
    | .free | .gone => none
  | .abandon =>
    match x.caller with
    | .waiting _ => some ({ x with caller := .free }, [])
    | .free | .gone => none
  | .cancel =>
    match x.caller with
    | .free => some ({ x with runner := x.runner.cancel }, [])
    | .waiting _ | .gone => none
  | .drop =>
    match x.caller with
    | .free => some (⟨x.runner.cancel, .gone⟩, [])
    | .waiting _ | .gone => none
  | .loop i event =>
    match x.runner.loops[i]? with
    | some loop =>
      if event.fits loop.stage then
        let (runner, asked) := x.runner.advance i event
        some ({ x with runner }, asked.toList.map .backtestProgress)
      else none
    | none => none

/-- The execution after events that happen one after the other. -/
def run? (x : BacktestExecution) (events : List BacktestEvent) : Option BacktestExecution :=
  runFrom? (fun x event => (x.step? event).map (·.1)) x events

/-- What one event can do. -/
inductive Step (x : BacktestExecution) :
    BacktestEvent → BacktestExecution → List Call → Prop
  | refused {request e} (free : x.caller = .free) (refusal : x.runner.begin = .error e) :
      Step x (.run request) x []
  | begun {request runner} (free : x.caller = .free) (ready : x.runner.begin = .ok runner) :
      Step x (.run request) ⟨runner, .waiting request⟩ [.submitBacktest request]
  | answered {request} (reply now) (waiting : x.caller = .waiting request) :
      Step x (.answered reply now) ⟨x.runner.conclude reply now, .free⟩ []
  | abandoned {request} (waiting : x.caller = .waiting request) :
      Step x .abandon { x with caller := .free } []
  | cancelled (free : x.caller = .free) : Step x .cancel { x with runner := x.runner.cancel } []
  | dropped (free : x.caller = .free) : Step x .drop ⟨x.runner.cancel, .gone⟩ []
  | loop {i event loop} (found : x.runner.loops[i]? = some loop)
      (fits : event.fits loop.stage = true) :
      Step x (.loop i event) { x with runner := (x.runner.advance i event).1 }
        ((x.runner.advance i event).2.toList.map .backtestProgress)

/-- An event does one of the things that `Step` lists. -/
theorem step_of_step? {x y : BacktestExecution} {event : BacktestEvent} {calls : List Call}
    (step : x.step? event = some (y, calls)) : Step x event y calls := by
  cases event with
  | run request =>
      cases caller : x.caller with
      | free =>
          cases ready : x.runner.begin with
          | error e =>
              simp only [step?, caller, ready, Option.some.injEq, Prod.mk.injEq] at step
              obtain ⟨rfl, rfl⟩ := step
              exact .refused caller ready
          | ok runner =>
              simp only [step?, caller, ready, Option.some.injEq, Prod.mk.injEq] at step
              obtain ⟨rfl, rfl⟩ := step
              exact .begun caller ready
      | waiting _ | gone => simp [step?, caller] at step
  | answered reply now =>
      cases caller : x.caller with
      | waiting request =>
          simp only [step?, caller, Option.some.injEq, Prod.mk.injEq] at step
          obtain ⟨rfl, rfl⟩ := step
          exact .answered reply now caller
      | free | gone => simp [step?, caller] at step
  | abandon =>
      cases caller : x.caller with
      | waiting request =>
          simp only [step?, caller, Option.some.injEq, Prod.mk.injEq] at step
          obtain ⟨rfl, rfl⟩ := step
          exact .abandoned caller
      | free | gone => simp [step?, caller] at step
  | cancel =>
      cases caller : x.caller with
      | free =>
          simp only [step?, caller, Option.some.injEq, Prod.mk.injEq] at step
          obtain ⟨rfl, rfl⟩ := step
          rw [← caller]
          exact .cancelled caller
      | waiting _ | gone => simp [step?, caller] at step
  | drop =>
      cases caller : x.caller with
      | free =>
          simp only [step?, caller, Option.some.injEq, Prod.mk.injEq] at step
          obtain ⟨rfl, rfl⟩ := step
          exact .dropped caller
      | waiting _ | gone => simp [step?, caller] at step
  | loop i event =>
      cases found : x.runner.loops[i]? with
      | none => simp [step?, found] at step
      | some loop =>
          simp only [step?, found] at step
          split at step
          · rename_i fits
            obtain ⟨rfl, rfl⟩ := Prod.mk.inj (Option.some.inj step)
            exact .loop found fits
          · cases step

/-! ## Runs -/

section Run

variable {x y : BacktestExecution} {event : BacktestEvent} {calls : List Call}

/-- **What each event preserves holds after every run.** -/
theorem run?_induction (holds : List BacktestEvent → BacktestExecution → Prop)
    (base : holds [] x)
    (keep : ∀ events y event z calls, holds events y → Step y event z calls →
      holds (events ++ [event]) z)
    {events : List BacktestEvent} (run : x.run? events = some y) : holds events y := by
  refine runFrom?_induction holds base ?_ run
  intro events y event z _ before stepped
  obtain ⟨⟨z, calls⟩, step, rfl⟩ := Option.map_eq_some_iff.mp stepped
  exact keep events y event z calls before (step_of_step? step)

/-- An event changes the loops as an owner may. -/
theorem Step.evolves (step : Step x event y calls) :
    PollLoops.Evolves x.runner.toPollLoops y.runner.toPollLoops := by
  cases step with
  | refused _ _ => exact .stay
  | begun _ ready =>
      rw [BacktestRunner.begin_eq_ok ready]
      simpa using PollLoops.Evolves.release
  | answered reply now _ =>
      cases reply with
      | error e => exact .stay
      | ok id => exact .start rfl
  | abandoned _ => exact .stay
  | cancelled _ =>
      rw [BacktestRunner.cancel_toPollLoops]
      exact .release
  | dropped _ =>
      rw [BacktestRunner.cancel_toPollLoops]
      exact .release
  | @loop i event _ found fits =>
      rw [BacktestRunner.advance_loops found fits]
      exact .update i fun l => l.advance_cancelled BacktestLoop.enter_cancelled event

/-- The period of polling never changes. -/
theorem Step.interval (step : Step x event y calls) : y.runner.interval = x.runner.interval := by
  cases step with
  | refused _ _ | abandoned _ => rfl
  | begun _ ready =>
      rw [BacktestRunner.begin_eq_ok ready]
      exact x.runner.cancel_interval
  | answered reply now _ => cases reply <;> rfl
  | cancelled _ | dropped _ => exact x.runner.cancel_interval
  | loop _ _ => exact x.runner.advance_interval _ _

/-- At all times a loop is held exactly when it was not cancelled. -/
theorem tidy_of_run? {interval : Nat} {events : List BacktestEvent}
    (run : (start interval).run? events = some x) : x.runner.Tidy := by
  refine run?_induction (fun _ x => x.runner.Tidy) PollLoops.tidy_none ?_ run
  intro _ y event z calls tidy step
  exact step.evolves.tidy tidy

end Run

end BacktestExecution

/-! ## What a run tells -/

namespace BacktestEvent

/-- The id of the job that the engine took, if the event tells of one. -/
def submitted : BacktestEvent → List String
  | answered (.ok id) _ => [id]
  | answered (.error _) _ | run _ | abandon | cancel | drop | loop .. => []

/-- The report that the event brings to the loop at a place, if it brings one. -/
def reportsTo (i : Nat) : BacktestEvent → List BacktestProgress
  | loop k event => if k = i then event.reports else []
  | run _ | answered .. | abandon | cancel | drop => []

end BacktestEvent

/-- The ids of the jobs that the engine took, in order. -/
def submissions (events : List BacktestEvent) : List String :=
  events.flatMap BacktestEvent.submitted

/-- The reports in the replies to the questions of a loop, in order. -/
def reportsTo (i : Nat) (events : List BacktestEvent) : List BacktestProgress :=
  events.flatMap (BacktestEvent.reportsTo i)

@[simp] theorem submissions_concat (events : List BacktestEvent) (event : BacktestEvent) :
    submissions (events ++ [event]) = submissions events ++ event.submitted := by
  simp [submissions]

@[simp] theorem reportsTo_concat (i : Nat) (events : List BacktestEvent) (event : BacktestEvent) :
    reportsTo i (events ++ [event]) = reportsTo i events ++ event.reportsTo i := by
  simp [reportsTo]

/-! ## A short run -/

/-- A submission of an empty strategy. -/
def plainRequest : BacktestRequest where
  strategy := ⟨"My Strategy", [], [], none⟩
  symbols := ["AAPL"]
  years := 2
  startingCash := .zero false
  slippageBps := .zero false
  feeBps := .zero false
  interval := "1d"

/-- A report with nothing but a status. -/
def plainReport (status : String) : BacktestProgress := ⟨status, none, none, none, none, none⟩

/-- A backtest is submitted, and one report with a status published. -/
def firstReport (id status : String) : List BacktestEvent :=
  [.run plainRequest, .answered (.ok id) 0, .loop 0 (.serve 0), .loop 0 .ask,
    .loop 0 (.receive (.ok (plainReport status))), .loop 0 .publish]

end StrategyDesk
