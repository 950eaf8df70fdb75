import Mathlib.Data.List.Basic
import Mathlib.Logic.Function.Iterate
import StrategyDesk.Rehearsal.Stage

/-!
# Requests that are made after a delay

A request for a refresh that is to be made later stands on the agenda until the clock gets there.
Nothing else that happens on the stage takes it off, moves it or makes it twice.

## Main Definitions

* `Stage.requests` — the requests that stand on the agenda, and when they are to be made
* `Duty.requests`, `requestsOf` — the requests that duties make when they are done
* `Stage.nudge` — a loop is fired that does not get its turn yet
* `Stage.Proceeds` — the stage as time goes by, with the duties that are done

## Main Statements

* `Stage.requests_refresh` — a delayed refresh puts one request for each loop on the agenda
* `Stage.loop?_refresh_now` — a refresh without delay has each loop fired
* `Stage.perform_requests`, `Stage.next?_requests` — what one duty makes of the agenda
* `Stage.Proceeds.requests` — requests are made once, and at their time
* `Stage.perform_of_requests` — a duty that makes a request has the loops fired
-/

namespace StrategyDesk

namespace Duty

/-- When a duty that is done at a time asks for a refresh, and by which trigger. -/
def request? (time : Nat) : Duty → Option (Nat × Trigger)
  | fireLater trigger delay => some (time + delay, trigger)
  | fire trigger => some (time, trigger)
  | backtestTick _ | backtestReply .. | launchTick _ | launchReply .. | statusLook _
  | statusReply .. | logLook _ | logReply .. => none

/-- The requests that a duty makes at once when it is done. -/
def requests (now : Nat) : Duty → List (Nat × Trigger)
  | fireLater trigger delay => if delay = 0 then [(now, trigger)] else []
  | fire trigger => [(now, trigger)]
  | backtestTick _ | backtestReply .. | launchTick _ | launchReply .. | statusLook _
  | statusReply .. | logLook _ | logReply .. => []

/-- A report on a launch arrives. Such a report may end the launch, and have the monitors refreshed
on its own account. -/
def isLaunchReply : Duty → Bool
  | launchReply .. => true
  | backtestTick _ | backtestReply .. | launchTick _ | statusLook _ | statusReply .. | logLook _
  | logReply .. | fireLater .. | fire _ => false

/-- The duty asks for nothing, whenever it is done. -/
def IsQuiet (duty : Duty) : Prop := ∀ time, duty.request? time = none

end Duty

/-- The requests that duties make when they are done at their times. -/
def requestsOf (trace : List (Nat × Duty)) : List (Nat × Trigger) :=
  trace.flatMap fun e => e.2.requests e.1

namespace Stage

/-- The requests that stand on the agenda, and when they are to be made. What is late is done at
once. -/
def requests (s : Stage) : List (Nat × Trigger) :=
  s.agenda.filterMap fun e => e.2.request? (max s.now e.1)

variable {s t u : Stage} {duty : Duty} {moment : Nat}

/-- A request that stands on the agenda is not overdue. -/
theorem le_of_mem_requests {request : Nat × Trigger} (stands : request ∈ s.requests) :
    s.now ≤ request.1 := by
  obtain ⟨⟨time, duty⟩, -, asks⟩ := List.mem_filterMap.mp stands
  cases duty with
  | fireLater trigger delay =>
      obtain rfl := Option.some.inj asks
      dsimp only
      omega
  | fire trigger =>
      obtain rfl := Option.some.inj asks
      dsimp only
      omega
  | backtestTick _ | backtestReply _ _ | launchTick _ | launchReply _ _ | statusLook _
  | statusReply _ _ | logLook _ | logReply _ _ => cases asks

/-! ## Loops that are fired -/

/-- The stage with a loop fired that does not get its turn yet. -/
def nudge (s : Stage) : Trigger → Stage
  | .status i => { s with status := s.status.map (·.fire i) }
  | .logs i => { s with logs := s.logs.map (·.fire i) }

/-- A loop that is fired gets its turn, or not. -/
theorem fire_eq (s : Stage) (trigger : Trigger) :
    s.fire trigger = s.nudge trigger ∨
      s.fire trigger = (s.nudge trigger).enter (s.nudge trigger).now (lookDuty trigger) := by
  unfold fire
  dsimp only
  split
  · exact Or.inr (by cases trigger <;> rfl)
  · exact Or.inl (by cases trigger <;> rfl)

/-- The loop of a trigger is fired, and no other. -/
theorem loop?_nudge (s : Stage) (trigger other : Trigger) :
    (s.nudge trigger).loop? other =
      if trigger = other then (s.loop? other).map RefreshLoop.fire else s.loop? other := by
  cases trigger with
  | status i =>
      cases other with
      | status j =>
          by_cases same : i = j <;> cases board : s.status <;>
            simp [loop?, nudge, board, StatusBoard.fire, ReadLoop.update, same, Function.comp_def]
      | logs j => rfl
  | logs i =>
      cases other with
      | status j => rfl
      | logs j =>
          by_cases same : i = j <;> cases board : s.logs <;>
            simp [loop?, nudge, board, LogBoard.fire, LogLoop.update, ReadLoop.update, same,
              Function.comp_def]

/-- A loop that gets its turn is as it was. -/
theorem loop?_fire (s : Stage) (trigger other : Trigger) :
    (s.fire trigger).loop? other =
      if trigger = other then (s.loop? other).map RefreshLoop.fire else s.loop? other := by
  rcases s.fire_eq trigger with asleep | woken
  · rw [asleep, loop?_nudge]
  · rw [woken, ← loop?_nudge]
    cases other <;> rfl

/-! ## Steps that leave the requests alone -/

/-- The clock, the loops that the controller refreshes, and the requests are what they were. -/
structure Leaves (s t : Stage) : Prop where
  now : t.now = s.now
  refreshed : t.refreshed = s.refreshed
  requests : t.requests = s.requests

namespace Leaves

theorem refl (s : Stage) : s.Leaves s := ⟨rfl, rfl, rfl⟩

theorem trans (first : s.Leaves t) (second : t.Leaves u) : s.Leaves u where
  now := second.now.trans first.now
  refreshed := second.refreshed.trans first.refreshed
  requests := second.requests.trans first.requests

theorem enter (left : s.Leaves t) (quiet : duty.IsQuiet) (time : Nat) :
    s.Leaves (t.enter time duty) := by
  refine left.trans ⟨rfl, rfl, ?_⟩
  have silent := quiet (max t.now time)
  simp [Stage.requests, Stage.enter, silent]

theorem enterTick (left : s.Leaves t) (quiet : duty.IsQuiet) (due : Nat) :
    s.Leaves (t.enterTick due duty) := by
  unfold Stage.enterTick
  split
  · refine left.trans ⟨rfl, rfl, ?_⟩
    have silent := quiet t.now
    simp [Stage.requests, silent]
  · exact left.enter quiet due

theorem place (left : s.Leaves t) (call : Call) : s.Leaves (t.place call).1 :=
  left.trans ⟨rfl, rfl, rfl⟩

theorem enterReply (left : s.Leaves t) (quiet : duty.IsQuiet) (reply : ScriptedReply) :
    s.Leaves (t.enterReply reply duty) :=
  left.enterTick quiet _

theorem isQuiet_lookDuty (trigger : Trigger) : (lookDuty trigger).IsQuiet := by
  intro time
  cases trigger <;> rfl

theorem enterPark (left : s.Leaves t) (trigger : Trigger) : s.Leaves (t.enterPark trigger) := by
  unfold Stage.enterPark
  split
  · split
    · exact left.enter (isQuiet_lookDuty trigger) _
    · exact left
  · exact left

theorem enterBacktestTick (left : s.Leaves t) (i : Nat) : s.Leaves (t.enterBacktestTick i) := by
  unfold Stage.enterBacktestTick
  split
  · split
    · exact left.enterTick (fun _ => rfl) _
    · exact left
  · exact left

theorem enterLaunchTick (left : s.Leaves t) (i : Nat) : s.Leaves (t.enterLaunchTick i) := by
  unfold Stage.enterLaunchTick
  split
  · split
    · exact left.enterTick (fun _ => rfl) _
    · exact left
  · exact left

/-- A request that is made wakes its loop at most. -/
theorem fire (left : s.Leaves t) (trigger : Trigger) : s.Leaves (t.fire trigger) := by
  have poked : s.Leaves (t.nudge trigger) := by
    refine left.trans ?_
    cases trigger <;> exact ⟨rfl, rfl, rfl⟩
  rcases t.fire_eq trigger with asleep | woken
  · rw [asleep]
    exact poked
  · rw [woken]
    exact poked.enter (isQuiet_lookDuty trigger) _

theorem foldl_fire (left : s.Leaves t) (triggers : List Trigger) :
    s.Leaves (triggers.foldl Stage.fire t) := by
  induction triggers generalizing t with
  | nil => exact left
  | cons trigger rest ih => exact ih (left.fire trigger)

end Leaves

/-! ## Refreshes -/

/-- What a refresh puts on the agenda. -/
def ordered (s : Stage) : Refresh → List (Nat × Trigger)
  | .never | .now => []
  | .later delay => s.refreshed.map (s.now + delay, ·)

/-- **A delayed refresh puts one request for each loop on the agenda**, and nothing else does. -/
theorem requests_refresh (s : Stage) (refresh : Refresh) :
    (s.refresh refresh).requests = s.requests ++ s.ordered refresh ∧
      (s.refresh refresh).now = s.now := by
  cases refresh with
  | never => exact ⟨(List.append_nil _).symm, rfl⟩
  | now =>
      have left := (Leaves.refl s).foldl_fire s.refreshed
      exact ⟨left.requests.trans (List.append_nil _).symm, left.now⟩
  | later delay =>
      -- The induction is on the loops that are still to be entered.
      suffices goal : ∀ (triggers : List Trigger) (s : Stage),
          let t := triggers.foldl (fun s t => s.enter s.now (.fireLater t delay)) s
          t.requests = s.requests ++ triggers.map (s.now + delay, ·) ∧ t.now = s.now from
        goal s.refreshed s
      intro triggers
      induction triggers with
      | nil =>
          intro s
          exact ⟨(List.append_nil _).symm, rfl⟩
      | cons trigger rest ih =>
          intro s
          obtain ⟨entered, same⟩ := ih (s.enter s.now (.fireLater trigger delay))
          refine ⟨?_, same⟩
          have first : (s.enter s.now (.fireLater trigger delay)).requests =
              s.requests ++ [(s.now + delay, trigger)] := by
            simp [requests, enter, Duty.request?]
          rw [List.foldl_cons, entered, first, List.append_assoc]
          rfl

/-- **A refresh without delay has each loop fired** as often as the controller refreshes it. -/
theorem loop?_refresh_now (s : Stage) (trigger : Trigger) :
    (s.refresh .now).loop? trigger =
      (s.loop? trigger).map (RefreshLoop.fire^[s.refreshed.count trigger]) := by
  -- The induction is on the loops that are still to be fired.
  suffices goal : ∀ (triggers : List Trigger) (s : Stage),
      (triggers.foldl fire s).loop? trigger =
        (s.loop? trigger).map (RefreshLoop.fire^[triggers.count trigger]) from
    goal s.refreshed s
  intro triggers
  induction triggers with
  | nil =>
      intro s
      exact Option.map_id.symm ▸ rfl
  | cons first rest ih =>
      intro s
      rw [List.foldl_cons, ih, loop?_fire, List.count_cons]
      by_cases same : first = trigger <;> simp [same, Function.iterate_succ]

/-- A delayed refresh has no loop fired before its time. -/
theorem loop?_refresh_later (s : Stage) (delay : Nat) (trigger : Trigger) :
    (s.refresh (.later delay)).loop? trigger = s.loop? trigger := by
  suffices goal : ∀ (triggers : List Trigger) (s : Stage),
      (triggers.foldl (fun s t => s.enter s.now (.fireLater t delay)) s).loop? trigger =
        s.loop? trigger from
    goal s.refreshed s
  intro triggers
  induction triggers with
  | nil => exact fun _ => rfl
  | cons first rest ih => exact fun s => ih (s.enter s.now (.fireLater first delay))

/-! ## One duty -/

/-- What a duty that asks for nothing, and is no report on a launch, leaves alone. -/
theorem Leaves.perform (s : Stage) (quiet : duty.IsQuiet) (noReport : duty.isLaunchReply = false) :
    s.Leaves (s.perform duty) := by
  cases duty with
  | launchReply i answer => cases noReport
  | fireLater trigger delay => cases quiet 0
  | fire trigger => cases quiet 0
  | backtestTick i | launchTick i =>
      simp only [Stage.perform]
      split
      · refine Leaves.enterReply ?_ (fun _ => rfl) _
        exact ⟨rfl, rfl, rfl⟩
      · exact ⟨rfl, rfl, rfl⟩
      · exact refl s
  | statusLook i | logLook i =>
      simp only [Stage.perform]
      split
      · refine Leaves.enterReply ?_ (fun _ => rfl) _
        exact ⟨rfl, rfl, rfl⟩
      · refine Leaves.enterPark ?_ _
        exact ⟨rfl, rfl, rfl⟩
      · exact refl s
  | backtestReply i answer =>
      refine Leaves.enterBacktestTick ?_ i
      exact ⟨rfl, rfl, rfl⟩
  | statusReply i answer | logReply i answer =>
      refine Leaves.enterTick ?_ (fun _ => rfl) _
      exact ⟨rfl, rfl, rfl⟩

/-- **What a duty makes of the requests on the agenda**: its own request is made or put on, and
only a report on a launch puts others on. -/
theorem perform_requests (s : Stage) (duty : Duty) :
    ∃ others, (duty.requests s.now ++ (s.perform duty).requests).Perm
        ((duty.request? s.now).toList ++ s.requests ++ others) ∧
      (duty.isLaunchReply = false → others = []) := by
  cases duty with
  | fire trigger =>
      refine ⟨[], ?_, fun _ => rfl⟩
      simp [Stage.perform, ((Leaves.refl s).fire trigger).requests, Duty.requests, Duty.request?]
  | fireLater trigger delay =>
      refine ⟨[], ?_, fun _ => rfl⟩
      by_cases atOnce : delay = 0
      · simp [Stage.perform, ((Leaves.refl s).fire trigger).requests, Duty.requests, Duty.request?,
          atOnce]
      · have entered : (s.perform (.fireLater trigger delay)).requests =
            s.requests ++ [(s.now + delay, trigger)] := by
          simp [Stage.perform, atOnce, Stage.enter, Stage.requests, Duty.request?]
        rw [entered]
        simp only [Duty.requests, atOnce, if_false, List.nil_append, Duty.request?,
          Option.toList_some, List.append_nil]
        exact List.perm_append_comm
  | launchReply i answer =>
      refine ⟨(s.gateway.map (·.reply i answer)).elim [] fun e => s.ordered e.2, ?_, nofun⟩
      simp only [Stage.perform]
      split
      · next controller refresh replied =>
        have ticked :=
          (Leaves.refl ({ s with gateway := some controller }.refresh refresh)).enterLaunchTick i
        rw [ticked.requests, (requests_refresh _ refresh).1, replied]
        exact List.Perm.refl _
      · next unreplied =>
        rw [unreplied]
        simp [Duty.requests, Duty.request?]
  | backtestTick i | backtestReply i answer | launchTick i | statusLook i | statusReply i answer
  | logLook i | logReply i answer =>
      refine ⟨[], ?_, fun _ => rfl⟩
      rw [(Leaves.perform s (fun _ => rfl) rfl).requests, List.append_nil]
      exact List.Perm.refl _

/-! ## As time goes by -/

/-- The next duty if it is due by a moment, and the stage when it is done. -/
def next? (s : Stage) (moment : Nat) : Option (Duty × Stage) :=
  s.nextTime?.bind fun time =>
    if moment < time then none
    else (takeAt time s.agenda).map fun (duty, agenda) =>
      (duty, { s with agenda, now := max s.now time })

/-- One step of the stage is to do the next duty. -/
theorem step?_eq_map_next? (s : Stage) (moment : Nat) :
    s.step? moment = (s.next? moment).map fun (duty, t) => t.perform duty := by
  unfold step? next?
  cases s.nextTime? with
  | none => rfl
  | some time =>
      by_cases early : moment < time
      · simp [early]
      · cases taken : takeAt time s.agenda <;> simp [early, taken]

theorem perm_of_takeAt {time : Nat} {agenda rest : List (Nat × Duty)}
    (taken : takeAt time agenda = some (duty, rest)) : agenda.Perm ((time, duty) :: rest) := by
  induction agenda generalizing rest with
  | nil => cases taken
  | cons first others ih =>
      unfold takeAt at taken
      split at taken
      · next same =>
        obtain ⟨rfl, rfl⟩ := Prod.mk.inj (Option.some.inj taken)
        rw [← same]
      · obtain ⟨⟨found, left⟩, further, same⟩ := Option.map_eq_some_iff.mp taken
        obtain ⟨rfl, rfl⟩ := Prod.mk.inj same
        exact ((ih further).cons _).trans (List.Perm.swap _ _ _)

/-- The next duty is one of those that are due first. -/
theorem next?_eq_some (next : s.next? moment = some (duty, t)) :
    ∃ time agenda, (∀ e ∈ s.agenda, time ≤ e.1) ∧ s.agenda.Perm ((time, duty) :: agenda) ∧
      t = { s with agenda, now := max s.now time } := by
  unfold next? at next
  obtain ⟨time, first, next⟩ := Option.bind_eq_some_iff.mp next
  split at next
  · cases next
  · obtain ⟨⟨found, agenda⟩, taken, same⟩ := Option.map_eq_some_iff.mp next
    obtain ⟨rfl, rfl⟩ := Prod.mk.inj same
    refine ⟨time, agenda, fun e member => ?_, perm_of_takeAt taken, rfl⟩
    exact (List.min?_eq_some_iff.mp first).2 _ (List.mem_map_of_mem member)

/-- Requests stay when the clock moves on and nothing is due before. -/
theorem requests_of_idle {time : Nat} (idle : ∀ e ∈ s.agenda, time ≤ e.1) :
    ({ s with now := max s.now time } : Stage).requests = s.requests := by
  refine List.filterMap_congr fun e member => ?_
  have later := idle e member
  have same : max (max s.now time) e.1 = max s.now e.1 := by omega
  simp only [same]

/-- **Taking a duty off the agenda takes its request off**, and no other. -/
theorem next?_requests (next : s.next? moment = some (duty, t)) :
    s.requests.Perm ((duty.request? t.now).toList ++ t.requests) := by
  obtain ⟨time, agenda, first, split, rfl⟩ := next?_eq_some next
  rw [← requests_of_idle first]
  refine (split.filterMap _).trans ?_
  cases asks : duty.request? (max s.now time) with
  | none => simp [requests, asks]
  | some request => simp [requests, asks]

/-- The stage as time goes by, with the duties that are done, and when. -/
inductive Proceeds : Stage → List (Nat × Duty) → Stage → Prop
  | rest {s : Stage} : Proceeds s [] s
  /-- Nothing is due before a moment. -/
  | wait {s u : Stage} {trace : List (Nat × Duty)} {moment : Nat}
      (idle : ∀ e ∈ s.agenda, moment ≤ e.1)
      (goesOn : Proceeds { s with now := max s.now moment } trace u) : Proceeds s trace u
  | perform {s t u : Stage} {trace : List (Nat × Duty)} {duty : Duty} {moment : Nat}
      (next : s.next? moment = some (duty, t)) (goesOn : Proceeds (t.perform duty) trace u) :
      Proceeds s ((t.now, duty) :: trace) u

namespace Proceeds

open scoped List

variable {trace : List (Nat × Duty)}

/-- What the stage does to get to a moment. -/
theorem settleFrom (fuel : Nat) (s : Stage) (moment : Nat) :
    ∃ trace, s.Proceeds trace (settleFrom fuel s moment) := by
  induction fuel generalizing s with
  | zero => exact ⟨[], rest⟩
  | succ fuel ih =>
      unfold Stage.settleFrom
      rw [step?_eq_map_next?]
      cases next : s.next? moment with
      | none => exact ⟨[], rest⟩
      | some e =>
          obtain ⟨trace, goesOn⟩ := ih (e.2.perform e.1)
          exact ⟨(e.2.now, e.1) :: trace, perform next goesOn⟩

/-- Nothing happens while nothing is due. -/
theorem trace_eq_nil (course : s.Proceeds trace u) (empty : s.agenda = []) : trace = [] := by
  induction course with
  | rest => rfl
  | wait _ _ ih => exact ih empty
  | perform next _ _ =>
      obtain ⟨time, agenda, -, split, -⟩ := next?_eq_some next
      rw [empty] at split
      cases split.nil_eq

/-- **Requests are made once, and at their time.** What was made, together with what is still to be
made, is what stood on the agenda, and what launches that came to an end have put on. -/
theorem requests (course : s.Proceeds trace u) :
    ∃ others, (requestsOf trace ++ u.requests).Perm (s.requests ++ others) ∧
      ((∀ e ∈ trace, e.2.isLaunchReply = false) → others = []) := by
  induction course with
  | rest => exact ⟨[], by simp [requestsOf], fun _ => rfl⟩
  | wait idle goesOn ih =>
      rw [requests_of_idle idle] at ih
      exact ih
  | @perform s t u trace duty moment next goesOn ih =>
      obtain ⟨later, made, quietLater⟩ := ih
      obtain ⟨here, done, quietHere⟩ := perform_requests t duty
      refine ⟨here ++ later, ?_, fun quiet => ?_⟩
      · have before := next?_requests next
        calc requestsOf ((t.now, duty) :: trace) ++ u.requests
            = duty.requests t.now ++ (requestsOf trace ++ u.requests) := by
              simp [requestsOf]
          _ ~ duty.requests t.now ++ ((t.perform duty).requests ++ later) := made.append_left _
          _ = (duty.requests t.now ++ (t.perform duty).requests) ++ later := by simp
          _ ~ ((duty.request? t.now).toList ++ t.requests ++ here) ++ later := done.append_right _
          _ ~ (s.requests ++ here) ++ later := (before.symm.append_right _).append_right _
          _ = s.requests ++ (here ++ later) := List.append_assoc ..
      · have first := quietHere (quiet _ List.mem_cons_self)
        have others := quietLater fun e member => quiet e (List.mem_cons_of_mem _ member)
        rw [first, others, List.append_nil]

end Proceeds

/-- A duty that makes a request asks the loop for a refresh. -/
theorem perform_of_requests {request : Nat × Trigger}
    (makes : duty.requests s.now = [request]) : s.perform duty = s.fire request.2 := by
  cases duty with
  | fire trigger =>
      obtain rfl := List.singleton_inj.mp makes
      rfl
  | fireLater trigger delay =>
      by_cases atOnce : delay = 0
      · simp only [Duty.requests, atOnce, if_true, List.singleton_inj] at makes
        simp [Stage.perform, atOnce, ← makes]
      · simp [Duty.requests, atOnce] at makes
  | backtestTick _ | backtestReply _ _ | launchTick _ | launchReply _ _ | statusLook _
  | statusReply _ _ | logLook _ | logReply _ _ => cases makes

end Stage

end StrategyDesk
