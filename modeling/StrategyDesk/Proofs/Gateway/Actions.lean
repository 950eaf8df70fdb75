import StrategyDesk.Proofs.Gateway.Supersession

/-!
# Actions from beginning to end

An action is begun, its reply is awaited while launch polls go on, and it comes to an outcome.  An
action that fails leaves the gateway to its launch polls, as if it had not been tried; only a stop
has let go of the launch and cleared the slot by then.

## Main Definitions

* `GatewayExecution.pollEvents` — what launch polls do while a reply is awaited
* `GatewayExecution.carryOut?` — an action with its outcome, and the refresh that it asks for
* `GatewayExecution.Polls` — the launch poll at a place is live
* `GatewayExecution.KeptBy` — the slot and the live launch polls are what they were

## Main Statements

* `GatewayExecution.run?_of_carryOut?` — a whole action is a run
* `GatewayExecution.failed_action_keeps_iff` — what is left of an action that fails
* `GatewayExecution.failed_stop_clears_launch` — a stop that fails, and the launch that is gone
-/

namespace StrategyDesk

namespace Controller

variable {c begun : Controller} {action : ControlAction} {why : Error}

/-- Only a stop of the gateway changes anything before its reply. -/
theorem begin_eq_ok (begins : c.begin action = .ok begun) (other : action ≠ .gatewayStop) :
    begun = c := by
  cases action with
  | gatewayStop => exact absurd rfl other
  | gatewayStart | gatewayLogin | pipelineStop => exact (Except.ok.inj begins).symm
  | pipelineStart config dryRun =>
      unfold begin at begins
      dsimp only at begins
      split at begins
      · cases begins
      · exact (Except.ok.inj begins).symm

/-- An action comes to an error only with its reply, and then changes nothing. -/
theorem conclude_eq_error {reply : Except Error ControlReply} {now : Nat}
    (fails : (c.conclude action reply now).2.1 = .error why) :
    c.conclude action reply now = (c, .error why, .never) := by
  cases reply with
  | error e =>
      obtain rfl := Except.error.inj fails
      rfl
  | ok answer => cases action <;> cases fails

/-- An action comes to an outcome only with an answer. -/
theorem conclude_eq_ok {reply : Except Error ControlReply} {now : Nat} {outcome : ControlOutcome}
    (comesTo : (c.conclude action reply now).2.1 = .ok outcome) : ∃ answer, reply = .ok answer := by
  cases reply with
  | error e => cases comesTo
  | ok answer => exact ⟨answer, rfl⟩

end Controller

namespace GatewayExecution

/-! ## Whole actions -/

/-- What happens to launch polls, each at its place, as events of an execution. -/
def pollEvents (meanwhile : List (Nat × LaunchEvent)) : List GatewayEvent :=
  meanwhile.map fun e => .loop e.1 e.2

/-- An action from its beginning to its end, if it can go so: the execution after it, its outcome,
and the refresh that it asks for. An action that is refused takes no time; any other one waits for
its reply, which arrives now, and launch polls go on meanwhile. -/
def carryOut? (x : GatewayExecution) (action : ControlAction)
    (meanwhile : List (Nat × LaunchEvent)) (reply : Except Error ControlReply)
    (now : Nat) : Option (GatewayExecution × Except Error ControlOutcome × Refresh) :=
  match x.caller with
  | .free =>
    match x.controller.begin action with
    | .error why => if meanwhile.isEmpty then some (x, .error why, .never) else none
    | .ok begun =>
      (run? ⟨begun, .waiting action⟩ (pollEvents meanwhile)).map fun z =>
        let (controller, outcome, refresh) := z.controller.conclude action reply now
        (⟨controller, .free⟩, outcome, refresh)
  | .waiting _ | .gone => none

variable {x y z : GatewayExecution} {action : ControlAction}
variable {meanwhile : List (Nat × LaunchEvent)}
variable {reply : Except Error ControlReply} {now : Nat}
variable {result : Except Error ControlOutcome} {refresh : Refresh}

/-- How an action goes. -/
theorem carryOut?_cases
    (carried : x.carryOut? action meanwhile reply now = some (y, result, refresh)) :
    x.caller = .free ∧
      ((∃ why, x.controller.begin action = .error why ∧ meanwhile = [] ∧
          y = x ∧ result = .error why ∧ refresh = .never) ∨
        ∃ begun z, x.controller.begin action = .ok begun ∧
          run? ⟨begun, .waiting action⟩ (pollEvents meanwhile) = some z ∧
          y = ⟨(z.controller.conclude action reply now).1, .free⟩ ∧
          (z.controller.conclude action reply now).2 = (result, refresh)) := by
  unfold carryOut? at carried
  cases caller : x.caller with
  | waiting _ | gone => simp [caller] at carried
  | free =>
      refine ⟨rfl, ?_⟩
      cases begins : x.controller.begin action with
      | error why =>
          simp only [caller, begins] at carried
          split at carried
          · next none =>
            obtain ⟨rfl, rfl, rfl⟩ := Prod.mk.injEq .. ▸ Option.some.inj carried
            exact Or.inl ⟨why, rfl, List.isEmpty_iff.mp none, rfl, rfl, rfl⟩
          · cases carried
      | ok begun =>
          simp only [caller, begins, Option.map_eq_some_iff] at carried
          obtain ⟨z, goesOn, same⟩ := carried
          obtain ⟨rfl, rest⟩ := Prod.mk.inj same
          exact Or.inr ⟨begun, z, rfl, goesOn, rfl, rest⟩

/-- A launch poll asks nothing of the caller, and so goes on beside any other one as well. -/
theorem step?_loop_beside {c : Controller} {about : Caller ControlAction} {i : Nat}
    {next : LaunchEvent} {effects : Effects}
    (step : step? ⟨c, about⟩ (.loop i next) = some (z, effects)) :
    z.caller = about ∧ ∀ other, step? ⟨c, other⟩ (.loop i next) =
      some (⟨z.controller, other⟩, effects) := by
  cases step_of_step? step with
  | loop found fits => exact ⟨rfl, fun other => by simp only [step?, found, fits, if_true]⟩
  | announced owed => exact ⟨rfl, fun other => step?_announce owed⟩

/-- Launch polls go on without regard to the caller. -/
theorem run?_pollEvents {c : Controller} {about : Caller ControlAction}
    (goesOn : run? ⟨c, about⟩ (pollEvents meanwhile) = some z) :
    z.caller = about ∧ ∀ other, run? ⟨c, other⟩ (pollEvents meanwhile) =
      some ⟨z.controller, other⟩ := by
  induction meanwhile generalizing c with
  | nil =>
      obtain rfl := Option.some.inj goesOn
      exact ⟨rfl, fun other => rfl⟩
  | cons first rest ih =>
      rw [pollEvents, List.map_cons, run?, runFrom?_cons, Option.bind_eq_some_iff] at goesOn
      obtain ⟨middle, stepped, goesOn⟩ := goesOn
      obtain ⟨⟨⟨controller, caller⟩, effects⟩, step, rfl⟩ := Option.map_eq_some_iff.mp stepped
      obtain ⟨rfl, beside⟩ := step?_loop_beside step
      obtain ⟨same, later⟩ := ih goesOn
      refine ⟨same, fun other => ?_⟩
      rw [pollEvents, List.map_cons, run?, runFrom?_cons, beside other, Option.map_some,
        Option.bind_some]
      exact later other

/-- **An action that takes its time is a run**: it is begun, launch polls go on, and its reply
arrives. -/
theorem run?_of_carryOut? {begun : Controller} (begins : x.controller.begin action = .ok begun)
    (carried : x.carryOut? action meanwhile reply now = some (y, result, refresh)) :
    x.run? (.execute action :: pollEvents meanwhile ++ [.answered action reply now]) = some y := by
  obtain ⟨free, ⟨why, refused, -⟩ | ⟨also, z, alsoBegins, goesOn, rfl, concluded⟩⟩ :=
    carryOut?_cases carried
  · rw [begins] at refused
    cases refused
  · obtain rfl := Except.ok.inj (begins.symm.trans alsoBegins)
    have waiting := (run?_pollEvents goesOn).1
    have awaits : x.run? (.execute action :: pollEvents meanwhile) = some z := by
      rw [run?, runFrom?_cons]
      simp only [step?, free, begins, Option.map_some, Option.bind_some]
      exact goesOn
    refine runFrom?_concat awaits ?_
    simp only [step?, waiting, if_true, Option.map_some]

/-! ## Actions that fail -/

/-- The launch poll at a place is live. -/
def Polls (x : GatewayExecution) (i : Nat) : Prop :=
  ∃ poll, x.controller.loops[i]? = some poll ∧ poll.isLive = true

/-- The slot is what it was, and live launch polls still are. -/
structure KeptBy (x y : GatewayExecution) : Prop where
  slot : y.controller.slot = x.controller.slot
  polls : ∀ i, x.Polls i → y.Polls i

/-- A stopped gateway is not polled. -/
theorem Stopped.not_polls (stopped : Stopped x) (i : Nat) : ¬ x.Polls i := by
  rintro ⟨poll, found, live⟩
  have cancelled := stopped.tidy.cancelled_of_held_eq_none stopped.free found
  rw [poll.cancelled_of_isLive live] at cancelled
  cases cancelled

/-- A stopped gateway stays so while nothing but launch polls goes on. -/
theorem Stopped.of_pollEvents (stopped : Stopped x)
    (goesOn : x.run? (pollEvents meanwhile) = some y) : Stopped y := by
  refine run?_invariant (fun event => event.writes = none) Stopped stopped ?_ goesOn ?_
  · intro y event z effects unwritten before step
    exact step.stopped_of_not_started before fun state written => by
      rw [unwritten] at written
      cases written
  · intro event member
    obtain ⟨e, -, rfl⟩ := List.mem_map.mp member
    rfl

variable {why : Error}

/-- **An action that fails was not tried**: all that happens is what launch polls do by
themselves. A stop is the exception. -/
theorem run?_of_failed (other : action ≠ .gatewayStop)
    (carried : x.carryOut? action meanwhile reply now = some (y, .error why, refresh)) :
    x.run? (pollEvents meanwhile) = some y ∧ refresh = .never := by
  obtain ⟨free, ⟨_, -, rfl, rfl, -, rfl⟩ | ⟨begun, z, begins, goesOn, rfl, concluded⟩⟩ :=
    carryOut?_cases carried
  · exact ⟨rfl, rfl⟩
  · obtain rfl := Controller.begin_eq_ok begins other
    have fails := Controller.conclude_eq_error (congrArg Prod.fst concluded)
    rw [fails] at concluded ⊢
    have alone := (run?_pollEvents goesOn).2 .free
    rw [← free] at alone
    exact ⟨free ▸ alone, (Prod.mk.inj concluded).2.symm⟩

/-- A stop that fails has stopped the gateway by then. -/
theorem stopped_of_failed (tidy : x.controller.Tidy)
    (carried : x.carryOut? .gatewayStop meanwhile reply now = some (y, .error why, refresh)) :
    Stopped y ∧ refresh = .never := by
  obtain ⟨free, ⟨_, refused, -⟩ | ⟨begun, z, begins, goesOn, rfl, concluded⟩⟩ :=
    carryOut?_cases carried
  · cases refused
  · obtain rfl := Except.ok.inj begins
    have stopped :
        Stopped ⟨{ x.controller.cancelPoll with slot := .idle }, .waiting .gatewayStop⟩ :=
      ⟨tidy.release, rfl, PollLoops.release_held _⟩
    -- The slot was cleared before the request, and no poll is left that could fill it again.
    obtain ⟨still, idle, unheld⟩ := stopped.of_pollEvents goesOn
    have fails := Controller.conclude_eq_error (congrArg Prod.fst concluded)
    rw [fails] at concluded ⊢
    exact ⟨⟨still, idle, unheld⟩, (Prod.mk.inj concluded).2.symm⟩

/-- **What is left of an action that fails**, after every run and for every action, whatever launch
polls do meanwhile.  No refresh follows.  If the action is not a stop, the gateway is left to its
launch polls as if the action had not been tried.  A stop that fails leaves an idle slot, and no
live launch poll.  So the slot and the live launch polls are kept exactly if the action is not a
stop, or there was nothing to be stopped. -/
theorem failed_action_keeps_iff {cadence : Cadence} {events : List GatewayEvent}
    (run : (start cadence).run? events = some x)
    (carried : x.carryOut? action meanwhile reply now = some (y, .error why, refresh)) :
    refresh = .never ∧
    (action ≠ .gatewayStop → x.run? (pollEvents meanwhile) = some y) ∧
    (action = .gatewayStop → y.controller.slot = .idle ∧ ∀ i, ¬ y.Polls i) ∧
    (meanwhile = [] → (x.KeptBy y ↔
      action ≠ .gatewayStop ∨ x.controller.slot = .idle ∧ ∀ i, ¬ x.Polls i)) := by
  by_cases stops : action = .gatewayStop
  · subst stops
    obtain ⟨stopped, none⟩ := stopped_of_failed (tidy_of_run? run) carried
    refine ⟨none, fun other => absurd rfl other, fun _ => ⟨stopped.idle, stopped.not_polls⟩, ?_⟩
    intro _
    constructor
    · intro kept
      refine Or.inr ⟨kept.slot.symm.trans stopped.idle, fun i polls => ?_⟩
      exact stopped.not_polls i (kept.polls i polls)
    · rintro (other | ⟨idle, unpolled⟩)
      · exact absurd rfl other
      · exact ⟨stopped.idle.trans idle.symm, fun i polls => absurd polls (unpolled i)⟩
  · obtain ⟨alone, none⟩ := run?_of_failed stops carried
    refine ⟨none, fun _ => alone, fun same => absurd same stops, ?_⟩
    rintro rfl
    obtain rfl := Option.some.inj alone
    exact ⟨fun _ => Or.inl stops, fun _ => ⟨rfl, fun i polls => polls⟩⟩

/-- The gateway is stopped while it is launched, and the request of the stop never gets through. -/
theorem failed_action_keeps_iff_stop :
    ∃ x y, (start plainCadence).run? (firstLaunch "job-1") = some x ∧
      x.carryOut? .gatewayStop [] (.error .unreachable) 1500 =
        some (y, .error .unreachable, .never) ∧ ¬ x.KeptBy y := by
  obtain ⟨x, y, run, launch, carried⟩ :
      ∃ x y, (start plainCadence).run? (firstLaunch "job-1") = some x ∧
        x.controller.slot = .starting "job-1" startingText ∧
        x.carryOut? .gatewayStop [] (.error .unreachable) 1500 =
          some (y, .error .unreachable, .never) :=
    ⟨_, _, rfl, rfl, rfl⟩
  refine ⟨x, y, run, carried, fun kept => ?_⟩
  rcases ((failed_action_keeps_iff run carried).2.2.2 rfl).mp kept with other | ⟨idle, -⟩
  · exact other rfl
  · rw [launch] at idle
    cases idle

/-- **A stop that fails clears the launch**: the gateway is shown idle, and the launch poll that was
at work is live no more. -/
theorem failed_stop_clears_launch :
    ∃ x y, (start plainCadence).run? (firstLaunch "job-1") = some x ∧
      x.controller.slot = .starting "job-1" startingText ∧ x.Polls 0 ∧
      x.carryOut? .gatewayStop [] (.error .unreachable) 1500 =
        some (y, .error .unreachable, .never) ∧
      y.controller.slot = .idle ∧ ¬ y.Polls 0 := by
  refine ⟨_, _, rfl, rfl, ⟨_, rfl, rfl⟩, rfl, rfl, ?_⟩
  rintro ⟨poll, found, live⟩
  cases found
  cases live

end GatewayExecution

end StrategyDesk
