import StrategyDesk.Gateway.Controller
import StrategyDesk.Proofs.Polling.Loops
import StrategyDesk.Proofs.Runs

/-!
# Executions of the process controller

The controller among those who use it: one caller, the engine that replies whenever it likes, and
all launch polls that were ever started.

## Main Definitions

* `LaunchEvent` — what happens next to a launch poll
* `GatewayEvent` — what may happen next
* `Effects` — the calls that an event makes, and the refresh that it asks for
* `GatewayExecution` — the controller, and what its caller is about
* `GatewayExecution.step?`, `GatewayExecution.run?` — one event, and events one after the other
* `GatewayExecution.Step` — what one event can do, case by case
* `GatewayEvent.writes` — what the caller writes into the slot
* `launches` — what the events of a run tell of launches
* `GatewayExecution.refreshesBy` — what a launch poll has refreshed in a run

## Main Statements

* `GatewayExecution.step_of_step?` — an event does one of the things that `Step` lists
* `Controller.publish_slot` — what a launch poll makes of the slot when it publishes
* `GatewayExecution.Step.evolves` — what an event does to the launch polls
* `GatewayExecution.Step.slot` — who writes the slot
* `GatewayExecution.Step.owes` — who has something to be refreshed, and when it is refreshed
-/

namespace StrategyDesk

/-! ## The steps of a launch poll -/

namespace LaunchPoll

variable {poll : LaunchPoll} {report : GatewayReport}

@[simp] theorem enter_cancelled (poll : LaunchPoll) : (enter poll).cancelled = poll.cancelled := by
  unfold enter
  split <;> rfl

@[simp] theorem enter_subject (poll : LaunchPoll) : (enter poll).subject = poll.subject := by
  unfold enter
  split <;> rfl

/-- A launch poll never changes what it polls. -/
@[simp] theorem advance_subject (event : LoopEvent GatewayReport) :
    (poll.advance enter event).subject = poll.subject := by
  by_cases publishes : event = .publish
  · subst publishes
    exact enter_subject poll
  · exact poll.advance_subject_of_ne_publish publishes

/-- A launch poll returns when it publishes the end of its launch. -/
theorem enter_stage_of_isTerminal (holding : poll.stage = .holding report)
    (ends : (report.state poll.subject).isTerminal = true) : (enter poll).stage = .returned := by
  unfold enter
  simp [holding, ends]

end LaunchPoll

/-- What an event asks others to do. -/
structure Effects where
  calls : List Call
  refresh : Refresh

/-- Nothing is asked for. -/
def Effects.none : Effects := ⟨[], .never⟩

/-- The refreshes that are asked for, if any. -/
def Refresh.asked : Refresh → List Refresh
  | .never => []
  | .now => [.now]
  | .later delay => [.later delay]

namespace Controller

/-- A launch poll goes on in its loop. -/
def advance (c : Controller) (i : Nat) : LoopEvent GatewayReport → Controller × Effects
  | .serve now => (c.serve i now, .none)
  | .ask =>
    let (c, asked) := c.ask i
    (c, ⟨asked.toList.map .gatewayJob, .never⟩)
  | .receive answer => (c.receive i answer, .none)
  | .publish => (c.publish i, .none)

variable {c : Controller} {i j : Nat} {poll : LaunchPoll} {report : GatewayReport}

@[simp] theorem owe_slot (refresh : Refresh) : (c.owe i refresh).slot = c.slot := rfl

@[simp] theorem owe_toPollLoops (refresh : Refresh) :
    (c.owe i refresh).toPollLoops = c.toPollLoops := rfl

@[simp] theorem owe_cadence (refresh : Refresh) : (c.owe i refresh).cadence = c.cadence := rfl

@[simp] theorem owe_owes_self (refresh : Refresh) : (c.owe i refresh).owes i = refresh :=
  if_pos rfl

theorem owe_owes_of_ne (refresh : Refresh) (other : j ≠ i) :
    (c.owe i refresh).owes j = c.owes j :=
  if_neg other

theorem publish_of_cancelled (found : c.loops[i]? = some poll)
    (holding : poll.stage = .holding report) (cancelled : poll.cancelled = true) :
    c.publish i = { c with toPollLoops := c.update i LaunchPoll.enter } := by
  unfold publish
  rw [found]
  simp [holding, cancelled]

theorem publish_of_not_cancelled (found : c.loops[i]? = some poll)
    (holding : poll.stage = .holding report) (notCancelled : poll.cancelled = false) :
    c.publish i =
      { c with
        toPollLoops := c.update i LaunchPoll.enter
        slot := report.state poll.subject }.owe i (c.refreshOn (report.state poll.subject)) := by
  unfold publish
  rw [found]
  simp [holding, notCancelled]

/-- An event of a launch poll that has come so far changes that launch poll only. -/
theorem advance_loops (found : c.loops[i]? = some poll) {event : LoopEvent GatewayReport}
    (fits : event.fits poll.stage = true) :
    (c.advance i event).1.toPollLoops =
      c.update i fun l => l.advance LaunchPoll.enter event := by
  cases event with
  | serve now => rfl
  | ask => rfl
  | receive answer => rfl
  | publish =>
      cases stage : poll.stage with
      | holding report =>
          simp only [advance]
          cases mark : poll.cancelled with
          | true => rw [publish_of_cancelled found stage mark]; rfl
          | false => rw [publish_of_not_cancelled found stage mark]; rfl
      | waiting | ticked | asking | returned =>
          rw [stage] at fits
          cases fits

/-- Only publishing touches the slot. -/
theorem advance_slot_of_ne_publish {event : LoopEvent GatewayReport}
    (notPublish : event ≠ .publish) : (c.advance i event).1.slot = c.slot := by
  cases event with
  | serve now => rfl
  | ask => rfl
  | receive answer => rfl
  | publish => exact absurd rfl notPublish

/-- What a launch poll makes of the slot when it publishes. -/
theorem publish_slot (found : c.loops[i]? = some poll) (holding : poll.stage = .holding report)
    (notCancelled : poll.cancelled = false) :
    (c.advance i .publish).1.slot = report.state poll.subject := by
  simp only [advance]
  rw [publish_of_not_cancelled found holding notCancelled, owe_slot]

/-- Nothing is refreshed as long as a launch poll goes on in its loop. -/
@[simp] theorem advance_refresh (event : LoopEvent GatewayReport) :
    (c.advance i event).2.refresh = .never := by
  cases event <;> rfl

/-- Only publishing makes a launch poll owe a refresh: the one that follows the state that it has
put into the slot. -/
theorem advance_owes (c : Controller) (i : Nat) (event : LoopEvent GatewayReport) :
    (c.advance i event).1.owes = c.owes ∨
      event = .publish ∧ (∃ poll, c.loops[i]? = some poll ∧ poll.cancelled = false) ∧
        (c.advance i event).1.owes =
          (c.owe i (c.refreshOn (c.advance i event).1.slot)).owes := by
  cases event with
  | serve now | ask | receive answer => exact Or.inl rfl
  | publish =>
      simp only [advance]
      unfold publish
      split
      · exact Or.inl rfl
      · next poll found =>
        split
        · split
          · exact Or.inl rfl
          · next notCancelled =>
            exact Or.inr ⟨trivial, ⟨poll, found, Bool.eq_false_iff.mpr notCancelled⟩, rfl⟩
        all_goals exact Or.inl rfl

/-- What a launch poll does in its loop leaves what others owe. -/
theorem advance_owes_of_ne (event : LoopEvent GatewayReport) (other : j ≠ i) :
    (c.advance i event).1.owes j = c.owes j := by
  rcases c.advance_owes i event with same | ⟨-, -, owes⟩
  · exact congrFun same j
  · rw [owes, owe_owes_of_ne _ other]

/-- Nothing that a cancelled launch poll does in its loop changes the slot or asks for anything. -/
theorem advance_of_cancelled (found : c.loops[i]? = some poll) (cancelled : poll.cancelled = true)
    (event : LoopEvent GatewayReport) :
    (c.advance i event).1.slot = c.slot ∧ (c.advance i event).2 = .none := by
  cases event with
  | serve now => exact ⟨rfl, rfl⟩
  | receive answer => exact ⟨rfl, rfl⟩
  | ask =>
      have silent := poll.ask_eq_false_of_cancelled cancelled
      exact ⟨rfl, by simp [advance, ask, PollLoops.ask, found, silent, Effects.none]⟩
  | publish =>
      refine ⟨?_, rfl⟩
      cases stage : poll.stage with
      | holding report =>
          simp only [advance]
          rw [publish_of_cancelled found stage cancelled]
      | waiting | ticked | asking | returned => simp [advance, publish, found, stage]

/-- A launch poll writes the slot only when it publishes and was not cancelled. -/
theorem advance_slot_cases (found : c.loops[i]? = some poll) {event : LoopEvent GatewayReport}
    (fits : event.fits poll.stage = true) :
    (c.advance i event).1.slot = c.slot ∨
      event = .publish ∧ poll.cancelled = false ∧ ∃ report, poll.stage = .holding report ∧
        (c.advance i event).1.slot = report.state poll.subject := by
  cases mark : poll.cancelled with
  | true => exact Or.inl (advance_of_cancelled found mark event).1
  | false =>
      by_cases publishes : event = .publish
      · subst publishes
        cases stage : poll.stage with
        | waiting | ticked | asking | returned => simp [LoopEvent.fits, stage] at fits
        | holding report =>
            exact Or.inr ⟨rfl, rfl, report, rfl, publish_slot found stage mark⟩
      · exact Or.inl (advance_slot_of_ne_publish publishes)

end Controller

/-! ## Executions -/

/-- What happens next to a launch poll. -/
inductive LaunchEvent where
  /-- It goes on in its loop. -/
  | step (event : LoopEvent GatewayReport)
  /-- It has refreshed what it owes. -/
  | announce

namespace LaunchEvent

@[match_pattern] abbrev serve (now : Nat) : LaunchEvent := step (.serve now)

@[match_pattern] abbrev ask : LaunchEvent := step .ask

@[match_pattern] abbrev receive (answer : Except Error GatewayReport) : LaunchEvent :=
  step (.receive answer)

@[match_pattern] abbrev publish : LaunchEvent := step .publish

end LaunchEvent

/-- What may happen next. -/
inductive GatewayEvent where
  /-- The caller has an action carried out. -/
  | execute (action : ControlAction)
  /-- The reply to an action arrives. -/
  | answered (action : ControlAction) (reply : Except Error ControlReply) (now : Nat)
  /-- The caller gives up an action that waits for its reply. -/
  | abandon
  /-- The caller lets the controller go. -/
  | drop
  /-- Something happens to the launch poll at a place. -/
  | loop (i : Nat) (event : LaunchEvent)

namespace LaunchReply

/-- What an answer to a start puts into the slot, if anything. -/
def slot? : LaunchReply → Option GatewayState
  | alreadyRunning pid _ => some (.running pid)
  | launched jobId => some (.starting jobId startingText)
  | other _ => none

/-- The id of the launch that an answer to a start tells of, if any. -/
def jobId? : LaunchReply → Option String
  | launched jobId => some jobId
  | alreadyRunning .. | other _ => none

end LaunchReply

namespace GatewayEvent

/-- The event happens to the launch poll at a place. -/
def isOf (i : Nat) : GatewayEvent → Bool
  | loop j _ => j == i
  | execute _ | answered .. | abandon | drop => false

/-- What the caller puts into the slot by the event, if anything. -/
def writes : GatewayEvent → Option GatewayState
  | execute .gatewayStop => some .idle
  | answered .gatewayStart (.ok answer) _ => answer.launch.slot?
  | execute _ | answered .. | abandon | drop | loop .. => none

/-- The id of the launch that the engine has begun, if the event tells of one. -/
def launched : GatewayEvent → List String
  | answered .gatewayStart (.ok answer) _ => answer.launch.jobId?.toList
  | execute _ | answered .. | abandon | drop | loop .. => []

theorem writes_execute_of_ne {action : ControlAction} (other : action ≠ .gatewayStop) :
    (execute action).writes = none := by
  cases action with
  | gatewayStop => exact absurd rfl other
  | gatewayStart | gatewayLogin | pipelineStart _ _ | pipelineStop => rfl

/-- An event that tells of a launch writes the slot. -/
theorem launched_of_writes_eq_none {event : GatewayEvent} (unwritten : event.writes = none) :
    event.launched = [] := by
  unfold launched
  split
  case h_1 answer now =>
      change answer.launch.slot? = none at unwritten
      cases launch : answer.launch with
      | alreadyRunning pid message | other outcome => rfl
      | launched jobId =>
          rw [launch] at unwritten
          cases unwritten
  all_goals rfl

end GatewayEvent

/-- The ids of the launches that the engine has begun, in order. -/
def launches (events : List GatewayEvent) : List String := events.flatMap GatewayEvent.launched

@[simp] theorem launches_concat (events : List GatewayEvent) (event : GatewayEvent) :
    launches (events ++ [event]) = launches events ++ event.launched := by
  simp [launches]

/-- The controller, and what its caller is about. -/
structure GatewayExecution where
  controller : Controller
  caller : Caller ControlAction

namespace GatewayExecution

/-- The beginning of all executions. -/
def start (cadence : Cadence) : GatewayExecution := ⟨.new cadence, .free⟩

/-- The execution after an event and the effects of the event, if it can happen. -/
def step? (x : GatewayExecution) : GatewayEvent → Option (GatewayExecution × Effects)
  | .execute action =>
    match x.caller with
    | .free =>
      match x.controller.begin action with
      | .error _ => some (x, .none)
      | .ok controller => some (⟨controller, .waiting action⟩, ⟨[action.call], .never⟩)
    | .waiting _ | .gone => none
  | .answered action reply now =>
    match x.caller with
    | .waiting asked =>
      if asked = action then
        let (controller, _, refresh) := x.controller.conclude action reply now
        some (⟨controller, .free⟩, ⟨[], refresh⟩)
      else none
    | .free | .gone => none
  | .abandon =>
    match x.caller with
    | .waiting _ => some ({ x with caller := .free }, .none)
    | .free | .gone => none
  | .drop =>
    match x.caller with
    | .free => some (⟨x.controller.cancelPoll, .gone⟩, .none)
    | .waiting _ | .gone => none
  | .loop i (.step event) =>
    match x.controller.loops[i]? with
    | some poll =>
      if event.fits poll.stage then
        let (controller, effects) := x.controller.advance i event
        some ({ x with controller }, effects)
      else none
    | none => none
  | .loop i .announce =>
    if x.controller.owes i = .never then none
    else
      let (controller, refresh) := x.controller.announce i
      some ({ x with controller }, ⟨[], refresh⟩)

/-- The execution after events that happen one after the other. -/
def run? (x : GatewayExecution) (events : List GatewayEvent) : Option GatewayExecution :=
  runFrom? (fun x event => (x.step? event).map (·.1)) x events

/-- What the launch poll at a place has refreshed in the course of events, in order. -/
def refreshesBy (i : Nat) (x : GatewayExecution) : List GatewayEvent → List Refresh
  | [] => []
  | event :: rest =>
    match x.step? event with
    | none => []
    | some (y, effects) =>
      (if event.isOf i then effects.refresh.asked else []) ++ y.refreshesBy i rest

/-- What one event can do. -/
inductive Step (x : GatewayExecution) : GatewayEvent → GatewayExecution → Effects → Prop
  | refused {action} (free : x.caller = .free) (other : action ≠ .gatewayStop) :
      Step x (.execute action) x .none
  | asked {action} (free : x.caller = .free) (other : action ≠ .gatewayStop) :
      Step x (.execute action) { x with caller := .waiting action } ⟨[action.call], .never⟩
  | stopped (free : x.caller = .free) :
      Step x (.execute .gatewayStop)
        ⟨{ x.controller.cancelPoll with slot := .idle }, .waiting .gatewayStop⟩
        ⟨[.gatewayStop], .never⟩
  | launched {answer jobId} (now) (waiting : x.caller = .waiting .gatewayStart)
      (launch : answer.launch = .launched jobId) :
      Step x (.answered .gatewayStart (.ok answer) now) ⟨x.controller.startPoll jobId now, .free⟩
        .none
  | alreadyRunning {answer pid message} (now) (waiting : x.caller = .waiting .gatewayStart)
      (launch : answer.launch = .alreadyRunning pid message) :
      Step x (.answered .gatewayStart (.ok answer) now)
        ⟨{ x.controller with slot := .running pid }, .free⟩ .none
  | concluded {action} (reply now refresh) (waiting : x.caller = .waiting action)
      (unwritten : (GatewayEvent.answered action reply now).writes = none) :
      Step x (.answered action reply now) { x with caller := .free } ⟨[], refresh⟩
  | abandoned {action} (waiting : x.caller = .waiting action) :
      Step x .abandon { x with caller := .free } .none
  | dropped (free : x.caller = .free) : Step x .drop ⟨x.controller.cancelPoll, .gone⟩ .none
  | loop {i event poll} (found : x.controller.loops[i]? = some poll)
      (fits : event.fits poll.stage = true) :
      Step x (.loop i (.step event)) { x with controller := (x.controller.advance i event).1 }
        (x.controller.advance i event).2
  | announced {i} (owed : x.controller.owes i ≠ .never) :
      Step x (.loop i .announce) { x with controller := x.controller.owe i .never }
        ⟨[], x.controller.owes i⟩

section Inversion

variable {x y : GatewayExecution} {effects : Effects}

/-- What the beginning of an action does to the controller. -/
theorem step_of_execute {action : ControlAction}
    (step : x.step? (.execute action) = some (y, effects)) :
    Step x (.execute action) y effects := by
  cases caller : x.caller with
  | waiting _ | gone => simp [step?, caller] at step
  | free =>
      cases action with
      | gatewayStop =>
          simp only [step?, caller, Controller.begin, Option.some.injEq, Prod.mk.injEq] at step
          obtain ⟨rfl, rfl⟩ := step
          exact .stopped caller
      | gatewayStart | gatewayLogin | pipelineStop =>
          simp only [step?, caller, Controller.begin, Option.some.injEq, Prod.mk.injEq] at step
          obtain ⟨rfl, rfl⟩ := step
          exact .asked caller nofun
      | pipelineStart config dryRun =>
          cases blank : isBlankText config with
          | true =>
              simp only [step?, caller, Controller.begin, blank, if_true, Option.some.injEq,
                Prod.mk.injEq] at step
              obtain ⟨rfl, rfl⟩ := step
              exact .refused caller nofun
          | false =>
              simp only [step?, caller, Controller.begin, blank, Bool.false_eq_true, if_false,
                Option.some.injEq, Prod.mk.injEq] at step
              obtain ⟨rfl, rfl⟩ := step
              exact .asked caller nofun

/-- What the reply to an action does to the controller. -/
theorem step_of_conclude {action : ControlAction} (reply : Except Error ControlReply) (now : Nat)
    (waiting : x.caller = .waiting action) :
    Step x (.answered action reply now) ⟨(x.controller.conclude action reply now).1, .free⟩
      ⟨[], (x.controller.conclude action reply now).2.2⟩ := by
  cases reply with
  | error e => exact .concluded _ _ _ waiting (by cases action <;> rfl)
  | ok answer =>
      -- Only the answer to a start of the gateway means more than an outcome.
      cases action with
      | gatewayStop | gatewayLogin | pipelineStart _ _ | pipelineStop =>
          exact .concluded _ _ _ waiting rfl
      | gatewayStart =>
          cases launch : answer.launch with
          | launched jobId =>
              simp only [Controller.conclude, Controller.concludeStart, launch]
              exact .launched now waiting launch
          | alreadyRunning pid message =>
              simp only [Controller.conclude, Controller.concludeStart, launch]
              exact .alreadyRunning now waiting launch
          | other outcome =>
              simp only [Controller.conclude, Controller.concludeStart, launch]
              refine .concluded _ _ _ waiting ?_
              rw [GatewayEvent.writes, launch]
              rfl

/-- An event does one of the things that `Step` lists. -/
theorem step_of_step? {event : GatewayEvent} (step : x.step? event = some (y, effects)) :
    Step x event y effects := by
  cases event with
  | execute action => exact step_of_execute step
  | answered action reply now =>
      cases caller : x.caller with
      | waiting asked =>
          simp only [step?, caller] at step
          split at step
          · rename_i same
            obtain ⟨rfl, rfl⟩ := Prod.mk.inj (Option.some.inj step)
            exact step_of_conclude reply now (same ▸ caller)
          · cases step
      | free | gone => simp [step?, caller] at step
  | abandon =>
      cases caller : x.caller with
      | waiting action =>
          simp only [step?, caller, Option.some.injEq, Prod.mk.injEq] at step
          obtain ⟨rfl, rfl⟩ := step
          exact .abandoned caller
      | free | gone => simp [step?, caller] at step
  | drop =>
      cases caller : x.caller with
      | free =>
          simp only [step?, caller, Option.some.injEq, Prod.mk.injEq] at step
          obtain ⟨rfl, rfl⟩ := step
          exact .dropped caller
      | waiting _ | gone => simp [step?, caller] at step
  | loop i event =>
      cases event with
      | step event =>
          cases found : x.controller.loops[i]? with
          | none => simp [step?, found] at step
          | some poll =>
              simp only [step?, found] at step
              split at step
              · next fits =>
                obtain ⟨rfl, rfl⟩ := Prod.mk.inj (Option.some.inj step)
                exact .loop found fits
              · cases step
      | announce =>
          simp only [step?] at step
          split at step
          · cases step
          · next owed =>
            obtain ⟨rfl, rfl⟩ := Prod.mk.inj (Option.some.inj step)
            exact .announced owed

end Inversion

/-! ## Runs -/

section Run

variable {x y : GatewayExecution} {event : GatewayEvent} {effects : Effects}

/-- **What each event preserves holds after every run.** -/
theorem run?_induction (holds : List GatewayEvent → GatewayExecution → Prop) (base : holds [] x)
    (keep : ∀ events y event z effects, holds events y → Step y event z effects →
      holds (events ++ [event]) z)
    {events : List GatewayEvent} (run : x.run? events = some y) : holds events y := by
  refine runFrom?_induction holds base ?_ run
  intro events y event z _ before stepped
  obtain ⟨⟨z, effects⟩, step, rfl⟩ := Option.map_eq_some_iff.mp stepped
  exact keep events y event z effects before (step_of_step? step)

/-- What each event of a kind preserves holds after every run of such events. -/
theorem run?_invariant (kind : GatewayEvent → Prop) (holds : GatewayExecution → Prop)
    (base : holds x)
    (keep : ∀ y event z effects, kind event → holds y → Step y event z effects → holds z)
    {events : List GatewayEvent} (run : x.run? events = some y)
    (ofKind : ∀ event ∈ events, kind event) : holds y := by
  refine runFrom?_invariant kind holds base ?_ run ofKind
  intro y event _ of before stepped
  obtain ⟨⟨z, effects⟩, step, rfl⟩ := Option.map_eq_some_iff.mp stepped
  exact keep y event z effects of before (step_of_step? step)

/-- An event changes the launch polls as an owner may. -/
theorem Step.evolves (step : Step x event y effects) :
    PollLoops.Evolves x.controller.toPollLoops y.controller.toPollLoops := by
  cases step with
  | refused _ _ | asked _ _ | alreadyRunning _ _ _ | concluded _ _ _ _ _ | abandoned _
  | announced _ => exact .stay
  | stopped _ | dropped _ => exact .release
  | launched now _ _ => exact .start rfl
  | @loop i event _ found fits =>
      rw [Controller.advance_loops found fits]
      exact .update i fun l => l.advance_cancelled LaunchPoll.enter_cancelled event

/-- Only the caller and launch polls that publish write the slot. -/
theorem Step.slot (step : Step x event y effects) (notPublish : ∀ i, event ≠ .loop i .publish) :
    y.controller.slot = event.writes.getD x.controller.slot := by
  cases step with
  | refused _ other | asked _ other => rw [GatewayEvent.writes_execute_of_ne other]; rfl
  | stopped _ | abandoned _ | dropped _ | announced _ => rfl
  | launched now _ launch | alreadyRunning now _ launch => rw [GatewayEvent.writes, launch]; rfl
  | concluded _ _ _ _ unwritten => rw [unwritten]; rfl
  | @loop i event _ found fits =>
      refine Controller.advance_slot_of_ne_publish ?_
      rintro rfl
      exact notPublish i rfl

/-- **What a launch poll owes** changes in two ways: it publishes while it is not cancelled, and
owes the refresh that follows the state in the slot; or it announces what it owes, which is then
refreshed. Nothing else is refreshed by it. -/
theorem Step.owes (step : Step x event y effects) (i : Nat) :
    (y.controller.owes i = x.controller.owes i ∧
      (event.isOf i = true → effects.refresh = .never)) ∨
    (event = .loop i .publish ∧ effects.refresh = .never ∧
      (∃ poll, x.controller.loops[i]? = some poll ∧ poll.cancelled = false) ∧
      y.controller.owes i = x.controller.refreshOn y.controller.slot) ∨
    (event = .loop i .announce ∧ effects.refresh = x.controller.owes i ∧
      y.controller.owes i = .never) := by
  cases step with
  | refused _ _ | asked _ _ | stopped _ | launched _ _ _ | alreadyRunning _ _ _
  | concluded _ _ _ _ _ | abandoned _ | dropped _ => exact Or.inl ⟨rfl, nofun⟩
  | @loop j event poll found fits =>
      have silent := @Controller.advance_refresh x.controller j event
      rcases Controller.advance_owes x.controller j event with same | ⟨rfl, alive, owes⟩
      · exact Or.inl ⟨congrFun same i, fun _ => silent⟩
      · by_cases itself : i = j
        · subst itself
          refine Or.inr (Or.inl ⟨rfl, silent, alive, ?_⟩)
          rw [owes, Controller.owe_owes_self]
        · exact Or.inl ⟨Controller.advance_owes_of_ne _ itself, fun _ => silent⟩
  | @announced j owed =>
      by_cases itself : i = j
      · subst itself
        exact Or.inr (Or.inr ⟨rfl, rfl, Controller.owe_owes_self _⟩)
      · refine Or.inl ⟨Controller.owe_owes_of_ne _ itself, fun same => ?_⟩
        exact absurd (beq_iff_eq.mp same).symm itself

/-- At all times a launch poll is held exactly when it was not cancelled. -/
theorem tidy_of_run? {cadence : Cadence} {events : List GatewayEvent}
    (run : (start cadence).run? events = some x) : x.controller.Tidy := by
  refine run?_induction (fun _ x => x.controller.Tidy) PollLoops.tidy_none ?_ run
  intro _ y event z effects tidy step
  exact step.evolves.tidy tidy

/-- At all times only launch polls that were started owe anything. -/
theorem unowed_of_run? {cadence : Cadence} {events : List GatewayEvent}
    (run : (start cadence).run? events = some x) {i : Nat}
    (beyond : x.controller.loops.length ≤ i) : x.controller.owes i = .never := by
  suffices unowed : ∀ i, x.controller.loops.length ≤ i → x.controller.owes i = .never from
    unowed i beyond
  refine run?_induction
    (fun _ x => ∀ i, x.controller.loops.length ≤ i → x.controller.owes i = .never)
    (fun _ _ => rfl) ?_ run
  intro _ y event z effects before step i beyond
  have grows := step.evolves.length_le
  rcases step.owes i with ⟨same, -⟩ | ⟨-, -, ⟨poll, found, -⟩, -⟩ | ⟨-, -, nothing⟩
  · exact same.trans (before i (Nat.le_trans grows beyond))
  · have inside := (List.getElem?_eq_some_iff.mp found).1
    omega
  · exact nothing

end Run

/-! ## A short run -/

/-- Periods of one second, and no delays. -/
def plainCadence : Cadence := ⟨1000, 0, 0⟩

/-- A report on a launch that tells of nothing but a status. -/
def launchReport (status : String) : GatewayReport := ⟨status, none, false, none⟩

/-- The gateway is launched, and the launch poll waits for its first report. -/
def firstLaunch (jobId : String) : List GatewayEvent :=
  [.execute .gatewayStart,
    .answered .gatewayStart (.ok ⟨"launched", none, some jobId, none⟩) 0,
    .loop 0 (.serve 1000), .loop 0 .ask]

end GatewayExecution

end StrategyDesk
