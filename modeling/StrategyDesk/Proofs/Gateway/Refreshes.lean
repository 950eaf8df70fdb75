import StrategyDesk.Proofs.Gateway.Actions
import StrategyDesk.Proofs.Rehearsal.Requests

/-!
# Refreshes after an action

An action that comes to an outcome has each of the registered loops refreshed after a delay.  A
start that is answered with a launch leaves that to the launch poll.  A start that is answered with
a gateway that runs already has nothing refreshed at all.

## Main Definitions

* `ControlAction.Launches`, `ControlAction.FindsRunning` — what a start may be answered with

## Main Statements

* `Controller.conclude_refresh` — the refresh that an action asks for
* `GatewayExecution.completed_action_refreshes` — what comes of it, as time goes by
* `GatewayExecution.found_running_unrefreshed` — an action after which nothing is ever refreshed
-/

namespace StrategyDesk

namespace ControlAction

/-- The action is a start, and the answer tells of a launch. -/
def Launches (action : ControlAction) (answer : ControlReply) : Prop :=
  action = .gatewayStart ∧ ∃ jobId, answer.launch = .launched jobId

/-- The action is a start, and the answer tells of a gateway that runs already. -/
def FindsRunning (action : ControlAction) (answer : ControlReply) : Prop :=
  action = .gatewayStart ∧ ∃ pid message, answer.launch = .alreadyRunning pid message

end ControlAction

/-! ## The controller -/

namespace Controller

variable {c : Controller} {action : ControlAction} {answer : ControlReply} {now : Nat}

/-- **The refresh that an action asks for** once it is answered. -/
theorem conclude_refresh (c : Controller) (action : ControlAction) (answer : ControlReply)
    (now : Nat) :
    (action.Launches answer ∨ action.FindsRunning answer →
      (c.conclude action (.ok answer) now).2.2 = .never) ∧
    (¬ action.Launches answer → ¬ action.FindsRunning answer →
      (c.conclude action (.ok answer) now).2.2 = .later c.cadence.refreshDelay) := by
  cases action with
  | gatewayStop | gatewayLogin | pipelineStart _ _ | pipelineStop =>
      refine ⟨?_, fun _ _ => rfl⟩
      rintro (⟨start, -⟩ | ⟨start, -⟩) <;> cases start
  | gatewayStart =>
      cases launch : answer.launch with
      | launched jobId =>
          refine ⟨fun _ => by simp [conclude, concludeStart, launch], fun other => ?_⟩
          exact absurd ⟨rfl, jobId, launch⟩ other
      | alreadyRunning pid message =>
          refine ⟨fun _ => by simp [conclude, concludeStart, launch], fun _ other => ?_⟩
          exact absurd ⟨rfl, pid, message, launch⟩ other
      | other outcome =>
          refine ⟨?_, fun _ _ => by simp [conclude, concludeStart, launch, refreshAfter]⟩
          rintro (⟨-, jobId, same⟩ | ⟨-, pid, message, same⟩) <;> simp [launch] at same

/-- An answer leaves one more launch poll exactly if it tells of a launch. -/
theorem conclude_length (c : Controller) (action : ControlAction) (answer : ControlReply)
    (now : Nat) :
    c.loops.length < (c.conclude action (.ok answer) now).1.loops.length ↔
      action.Launches answer := by
  cases action with
  | gatewayStop | gatewayLogin | pipelineStart _ _ | pipelineStop =>
      simp [conclude, ControlAction.Launches]
  | gatewayStart =>
      cases launch : answer.launch with
      | launched jobId =>
          simp [conclude, concludeStart, launch, startPoll, ControlAction.Launches]
      | alreadyRunning pid message | other outcome =>
          simp [conclude, concludeStart, launch, ControlAction.Launches]

theorem advance_cadence (c : Controller) (i : Nat) (event : LoopEvent GatewayReport) :
    (c.advance i event).1.cadence = c.cadence := by
  cases event with
  | serve now | ask | receive answer => rfl
  | publish =>
      simp only [advance]
      unfold publish
      split
      · rfl
      · split
        · split <;> rfl
        all_goals rfl

end Controller

namespace GatewayExecution

variable {x y : GatewayExecution} {event : GatewayEvent} {events : List GatewayEvent}
variable {effects : Effects} {action : ControlAction}
variable {meanwhile : List (Nat × LaunchEvent)}
variable {reply : Except Error ControlReply} {now : Nat} {refresh : Refresh}

/-! ## Periods and launch polls -/

theorem Step.cadence (step : Step x event y effects) :
    y.controller.cadence = x.controller.cadence := by
  cases step with
  | refused _ _ | asked _ _ | stopped _ | launched _ _ _ | alreadyRunning _ _ _
  | concluded _ _ _ _ _ | abandoned _ | dropped _ | announced _ => rfl
  | loop found fits => exact Controller.advance_cadence _ _ _

/-- Periods and delays are what they were from the start. -/
theorem cadence_of_run? (run : x.run? events = some y) :
    y.controller.cadence = x.controller.cadence := by
  refine run?_induction (fun _ y => y.controller.cadence = x.controller.cadence) rfl ?_ run
  intro _ y event z effects before step
  exact step.cadence.trans before

/-- What launch polls do starts none. -/
theorem length_of_pollEvents (goesOn : x.run? (pollEvents meanwhile) = some y) :
    y.controller.loops.length = x.controller.loops.length := by
  refine run?_invariant (fun event => ∃ i next, event = .loop i next)
    (fun y => y.controller.loops.length = x.controller.loops.length) rfl ?_ goesOn ?_
  · rintro y _ z effects ⟨i, next, rfl⟩ before step
    cases step with
    | loop found fits =>
        rw [Controller.advance_loops found fits, PollLoops.length_update]
        exact before
    | announced _ => exact before
  · intro event member
    obtain ⟨e, -, rfl⟩ := List.mem_map.mp member
    exact ⟨e.1, e.2, rfl⟩

/-! ## Actions that come to an outcome -/

variable {outcome : ControlOutcome}

/-- How an action goes that comes to an outcome. -/
theorem carryOut?_ok
    (carried : x.carryOut? action meanwhile reply now = some (y, .ok outcome, refresh)) :
    ∃ (answer : ControlReply) (z : GatewayExecution), reply = .ok answer ∧
      z.controller.loops.length = x.controller.loops.length ∧
      z.controller.cadence = x.controller.cadence ∧
      y.controller = (z.controller.conclude action (.ok answer) now).1 ∧
      refresh = (z.controller.conclude action (.ok answer) now).2.2 := by
  obtain ⟨free, ⟨_, -, -, -, fails, -⟩ | ⟨begun, z, begins, goesOn, rfl, concluded⟩⟩ :=
    carryOut?_cases carried
  · cases fails
  · obtain ⟨answer, rfl⟩ := Controller.conclude_eq_ok (congrArg Prod.fst concluded)
    -- Whatever the action begins with, it starts no launch poll and changes no period.
    have asked : begun.loops.length = x.controller.loops.length ∧
        begun.cadence = x.controller.cadence := by
      by_cases stops : action = .gatewayStop
      · subst stops
        obtain rfl := Except.ok.inj begins
        exact ⟨PollLoops.length_release _, rfl⟩
      · obtain rfl := Controller.begin_eq_ok begins stops
        exact ⟨rfl, rfl⟩
    have length := (length_of_pollEvents goesOn).trans asked.1
    have cadence := (cadence_of_run? goesOn).trans asked.2
    exact ⟨answer, z, rfl, length, cadence, rfl, (Prod.mk.inj concluded).2.symm⟩

/-- **What is refreshed after an action that comes to an outcome**, after every run, for every
action and answer, whatever launch polls do meanwhile.  One more launch poll is left exactly if the
action is a start that is answered with a launch.  After such an answer, and after one that finds
the gateway running, nothing is to be refreshed.  After any other answer each registered loop is
asked for one refresh, a fixed delay after the action: as time goes by, the requests that were made
and those that are still to be made are the ones that stood on the agenda before, those of the
action, and what later reports on launches have put on. -/
theorem completed_action_refreshes {cadence : Cadence} (run : (start cadence).run? events = some x)
    (carried : x.carryOut? action meanwhile reply now = some (y, .ok outcome, refresh)) :
    ∃ answer, reply = .ok answer ∧
      (x.controller.loops.length < y.controller.loops.length ↔ action.Launches answer) ∧
      (action.Launches answer ∨ action.FindsRunning answer → refresh = .never) ∧
      (¬ action.Launches answer → ¬ action.FindsRunning answer →
        ∀ stage : Stage, stage.now = now →
        ∀ trace later, (stage.refresh refresh).Proceeds trace later →
          ∃ others,
            (requestsOf trace ++ later.requests).Perm
              (stage.requests ++ stage.refreshed.map (now + cadence.refreshDelay, ·) ++ others) ∧
            ((∀ e ∈ trace, e.2.isLaunchReply = false) → others = []) ∧
            ∀ request ∈ later.requests, later.now ≤ request.1) := by
  obtain ⟨answer, z, rfl, length, same, concluded, rfl⟩ := carryOut?_ok carried
  have periods : z.controller.cadence = cadence := same.trans (cadence_of_run? run)
  obtain ⟨none, delayed⟩ := z.controller.conclude_refresh action answer now
  refine ⟨answer, rfl, ?_, none, ?_⟩
  · rw [concluded, ← length]
    exact z.controller.conclude_length action answer now
  · intro noLaunch notRunning stage atOnce trace later course
    rw [delayed noLaunch notRunning, periods] at course
    obtain ⟨others, made, quiet⟩ := course.requests
    rw [(Stage.requests_refresh _ _).1] at made
    refine ⟨others, ?_, quiet, fun request stands => Stage.le_of_mem_requests stands⟩
    rw [← atOnce]
    exact made

/-- A stage with a status monitor to be refreshed, on which nothing is due. -/
def quietStage (now : Nat) : Stage := { Stage.new {} [] with now, refreshed := [.status 0] }

/-- The pipeline is stopped, and the status is to be read once more, 250 ms later. -/
theorem completed_action_refreshes_pipelineStop :
    ∃ y outcome, (start ⟨1000, 250, 0⟩).carryOut? .pipelineStop []
        (.ok ⟨"stopped", none, none, none⟩) 40 = some (y, .ok outcome, .later 250) ∧
      ∀ trace later, ((quietStage 40).refresh (.later 250)).Proceeds trace later →
        (∀ e ∈ trace, e.2.isLaunchReply = false) →
        (requestsOf trace ++ later.requests).Perm [(290, .status 0)] := by
  obtain ⟨y, outcome, carried⟩ : ∃ y outcome,
      (start ⟨1000, 250, 0⟩).carryOut? .pipelineStop [] (.ok ⟨"stopped", none, none, none⟩) 40 =
        some (y, .ok outcome, .later 250) := ⟨_, _, rfl⟩
  refine ⟨y, outcome, carried, fun trace later course noReport => ?_⟩
  have run : (start ⟨1000, 250, 0⟩).run? [] = some (start ⟨1000, 250, 0⟩) := rfl
  obtain ⟨answer, -, -, -, follows⟩ := completed_action_refreshes run carried
  obtain ⟨others, made, quiet, -⟩ := follows (fun launches => nomatch launches.1)
    (fun found => nomatch found.1) (quietStage 40) rfl trace later course
  obtain rfl := quiet noReport
  exact made

/-- **A start that finds the gateway running has nothing refreshed**, however long the registered
monitor waits. -/
theorem found_running_unrefreshed :
    ∃ y outcome refresh, (start plainCadence).carryOut? .gatewayStart []
        (.ok ⟨"already_running", none, none, some 7⟩) 0 = some (y, .ok outcome, refresh) ∧
      y.controller.loops = [] ∧ (quietStage 0).refreshed = [.status 0] ∧
      ∀ trace later, ((quietStage 0).refresh refresh).Proceeds trace later →
        requestsOf trace = [] := by
  refine ⟨_, _, _, rfl, rfl, rfl, ?_⟩
  intro trace later course
  rw [course.trace_eq_nil rfl]
  rfl

end GatewayExecution

end StrategyDesk
