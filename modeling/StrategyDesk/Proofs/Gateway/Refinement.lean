import StrategyDesk.Proofs.Gateway.Refreshes
import StrategyDesk.Proofs.Gateway.TerminalStates
import StrategyDesk.Proofs.Polling.Pacing

/-!
# Polling a launch follows its last report

A launch poll goes through ticks, questions and replies that may be errors, writes the slot and asks
for refreshes.  What comes out of all this is a function of the replies: the slot is in the state
that the last report puts the launch into, the first report that ends the launch is the last one,
and what is refreshed depends on that state alone.

## Main Definitions

* `GatewayState.after` — the state that replies put a launch into
* `GatewayState.refreshes` — the refreshes that a launch has asked for when it is in a state
* `LaunchPoll.Polls` — the invariant of one launch poll, with all that it was told and has asked for
* `GatewayExecution.callsOf` — the calls that are made in a run
* `GatewayExecution.Launching` — the invariant of a launch under way among all launch polls
* `Stage.RefreshedBy` — what becomes of the loops that the controller refreshes

## Main Statements

* `LaunchPoll.Polls.advance` — each event of a launch poll keeps its invariant
* `GatewayExecution.Launching.run` — what happens to launch polls in the course of a run
* `GatewayExecution.HasReturned.step?_eq_none` — a launch poll that has returned is at its end
* `GatewayExecution.exists_run_of_launchReplies` — a launch poll takes any replies up to one that
  ends its launch
* `GatewayExecution.launch_refines_transition` — what follows for every launch

## Design Notes

The caller does nothing in the meantime.  Other launch polls may still be waiting for replies; they
were cancelled, and what they are told is no reply to the launch.
-/

namespace StrategyDesk

/-! ## What replies make of a launch -/

/-- The reply ends the launch with an id. No error does. -/
def endsLaunch (jobId : String) : Except Error GatewayReport → Bool
  | .ok report => (report.state jobId).isTerminal
  | .error _ => false

namespace GatewayState

/-- The state that replies put a launch into: that of the last report among them, and at first that
of a launch that has just begun. -/
def after (jobId : String) (replies : List (Except Error GatewayReport)) : GatewayState :=
  ((replies.filterMap Except.toOption).getLast?.map (·.state jobId)).getD
    (.starting jobId startingText)

/-- The refreshes that a launch has asked for by the time that it is in a state. -/
def refreshes (grace : Nat) : GatewayState → List Refresh
  | running _ => [.now]
  | scriptExited _ => [.later grace]
  | idle | starting .. | failed _ => []

variable {jobId : String} {replies : List (Except Error GatewayReport)}

theorem after_concat_error (e : Error) :
    after jobId (replies ++ [.error e]) = after jobId replies := by
  simp [after, Except.toOption]

theorem after_concat_ok (report : GatewayReport) :
    after jobId (replies ++ [.ok report]) = report.state jobId := by
  simp [after, Except.toOption]

/-- Nothing is asked to be refreshed as long as a launch is under way. -/
theorem refreshes_of_not_isTerminal {state : GatewayState} {grace : Nat}
    (goesOn : state.isTerminal = false) : state.refreshes grace = [] := by
  cases state with
  | idle | starting _ _ | failed _ => rfl
  | running _ | scriptExited _ => cases goesOn

/-- When all replies but the last one left the launch under way, and it still is, then so did the
last one. -/
theorem forall_of_not_isTerminal
    (earlier : ∀ reply ∈ replies.dropLast, endsLaunch jobId reply = false)
    (goesOn : (after jobId replies).isTerminal = false) :
    ∀ reply ∈ replies, endsLaunch jobId reply = false := by
  rcases List.eq_nil_or_concat replies with rfl | ⟨before, last, rfl⟩
  · exact nofun
  · rw [List.concat_eq_append] at *
    rw [List.dropLast_concat] at earlier
    intro reply mem
    rcases List.mem_append.mp mem with old | new
    · exact earlier reply old
    · obtain rfl := List.mem_singleton.mp new
      cases reply with
      | error e => rfl
      | ok report => rwa [after_concat_ok] at goesOn

end GatewayState

namespace Controller

/-- What a state that a launch is in asks to be refreshed. -/
theorem asked_refreshOn (c : Controller) (state : GatewayState) :
    (c.refreshOn state).asked = state.refreshes c.cadence.grace := by
  cases state <;> rfl

end Controller

/-! ## One launch poll -/

namespace LaunchPoll

/-- What a launch poll has made of the replies to its questions: all but a report in its hand are
settled, the slot shows what these have made of the launch, and only the last of them may have ended
it; what follows the end was refreshed, or is still owed. -/
structure Polls (jobId : String) (grace : Nat) (replies : List (Except Error GatewayReport))
    (calls : List Call) (refreshes : List Refresh) (owed : Refresh) (slot : GatewayState)
    (poll : LaunchPoll) : Prop where
  subject : poll.subject = jobId
  notCancelled : poll.cancelled = false
  calls : calls =
    List.replicate (replies.length + poll.stage.isAsking.toNat) (.gatewayJob jobId)
  refreshes : refreshes ++ owed.asked = slot.refreshes grace
  settled : ∃ settled, replies = settled ++ poll.inHand.map .ok ∧ slot = .after jobId settled ∧
    ∀ reply ∈ settled.dropLast, endsLaunch jobId reply = false
  ended : slot.isTerminal = true → poll.stage = .returned

namespace Polls

variable {jobId : String} {grace : Nat} {replies : List (Except Error GatewayReport)}
variable {calls : List Call} {refreshes : List Refresh} {c : Controller} {poll : LaunchPoll}
variable {owed : Refresh} {slot : GatewayState} {report : GatewayReport} {i : Nat}

/-- A launch poll that was just started. -/
theorem fresh {period : Nat} {ticker : Ticker} :
    Polls jobId grace [] [] [] .never (.starting jobId startingText)
      ⟨jobId, ticker, .first period, false⟩ where
  subject := rfl
  notCancelled := rfl
  calls := by cases period <;> rfl
  refreshes := rfl
  settled := by
    refine ⟨[], ?_, rfl, nofun⟩
    rw [PollLoop.inHand_of_first _ (rfl : _ = LoopStage.first period)]
    rfl
  ended := nofun

/-- While the launch poll goes on the launch is under way. -/
theorem goesOn (polls : Polls jobId grace replies calls refreshes owed slot poll)
    (notReturned : poll.stage.hasReturned = false) : slot.isTerminal = false := by
  by_contra ends
  rw [polls.ended (by simpa using ends)] at notReturned
  cases notReturned

/-- The launch poll serves a tick. -/
theorem serve (polls : Polls jobId grace replies calls refreshes owed slot poll)
    (waiting : poll.stage = .waiting) (now : Nat) :
    Polls jobId grace replies calls refreshes owed slot (poll.serve now) := by
  have underWay := polls.goesOn (by rw [waiting]; rfl)
  obtain ⟨subject, notCancelled, calls, refreshes, settled, -⟩ := polls
  rw [waiting] at calls
  simp only [PollLoop.inHand, waiting] at settled
  rw [PollLoop.serve_of_waiting waiting notCancelled]
  exact ⟨subject, notCancelled, calls, refreshes, settled, by simp [underWay]⟩

/-- The launch poll asks. -/
theorem ask (polls : Polls jobId grace replies calls refreshes owed slot poll)
    (ticked : poll.stage = .ticked) :
    Polls jobId grace replies (calls ++ [.gatewayJob jobId]) refreshes owed slot poll.ask.1 := by
  have underWay := polls.goesOn (by rw [ticked]; rfl)
  obtain ⟨subject, notCancelled, calls, refreshes, settled, -⟩ := polls
  rw [ticked] at calls
  simp only [PollLoop.inHand, ticked] at settled
  rw [PollLoop.ask_of_ticked ticked notCancelled]
  refine ⟨subject, notCancelled, ?_, refreshes, settled, by simp [underWay]⟩
  simp [calls, List.replicate_succ']

/-- An error comes back, and is settled at once. -/
theorem receive_error (polls : Polls jobId grace replies calls refreshes owed slot poll)
    (asking : poll.stage = .asking) (e : Error) :
    Polls jobId grace (replies ++ [.error e]) calls refreshes owed slot
      (poll.receive (.error e)) := by
  have underWay := polls.goesOn (by rw [asking]; rfl)
  obtain ⟨subject, notCancelled, calls, refreshes, ⟨settled, all, shown, earlier⟩, -⟩ := polls
  rw [asking] at calls
  simp only [PollLoop.inHand, asking, List.map_nil, List.append_nil] at all
  have waits : poll.receive (.error e) = { poll with stage := .waiting } := by
    simp [PollLoop.receive, asking, notCancelled]
  rw [waits]
  refine ⟨subject, notCancelled, ?_, refreshes, ⟨settled ++ [.error e], ?_, ?_, ?_⟩,
    by simp [underWay]⟩
  · simpa using calls
  · simp [PollLoop.inHand, all]
  · rw [GatewayState.after_concat_error]
    exact shown
  · rw [List.dropLast_concat]
    exact GatewayState.forall_of_not_isTerminal earlier (shown ▸ underWay)

/-- A report comes back, and is in the hand of the launch poll. -/
theorem receive_ok (polls : Polls jobId grace replies calls refreshes owed slot poll)
    (asking : poll.stage = .asking) (report : GatewayReport) :
    Polls jobId grace (replies ++ [.ok report]) calls refreshes owed slot
      (poll.receive (.ok report)) := by
  have underWay := polls.goesOn (by rw [asking]; rfl)
  obtain ⟨subject, notCancelled, calls, refreshes, ⟨settled, all, shown, earlier⟩, -⟩ := polls
  rw [asking] at calls
  simp only [PollLoop.inHand, asking, List.map_nil, List.append_nil] at all
  have holds : poll.receive (.ok report) = { poll with stage := .holding report } := by
    simp [PollLoop.receive, asking, notCancelled]
  rw [holds]
  refine ⟨subject, notCancelled, ?_, refreshes, ⟨settled, ?_, shown, earlier⟩,
    by simp [underWay]⟩
  · simpa using calls
  · simp [PollLoop.inHand, all]

/-- The slot shows what the report in hand makes of the launch, and the refresh that follows is
owed. -/
theorem publish (polls : Polls jobId grace replies calls refreshes owed slot poll)
    (holding : poll.stage = .holding report) {owes : Refresh}
    (follows : owes.asked = (report.state jobId).refreshes grace) :
    Polls jobId grace replies calls refreshes owes (report.state jobId) (enter poll) := by
  have underWay := polls.goesOn (by rw [holding]; rfl)
  obtain ⟨subject, notCancelled, calls, refreshes, ⟨settled, all, shown, earlier⟩, -⟩ := polls
  rw [holding] at calls
  simp only [PollLoop.inHand, holding, List.map_cons, List.map_nil] at all
  have quiet := GatewayState.forall_of_not_isTerminal earlier (shown ▸ underWay)
  have stage : (enter poll).stage =
      if (report.state jobId).isTerminal then .returned else .waiting := by
    simp [enter, holding, notCancelled, subject]
  have free : (enter poll).inHand = [] := by
    cases ends : (report.state jobId).isTerminal <;> simp [PollLoop.inHand, stage, ends]
  refine ⟨?_, ?_, ?_, ?_, ⟨settled ++ [.ok report], ?_, ?_, ?_⟩, ?_⟩
  · rw [enter_subject, subject]
  · rw [enter_cancelled, notCancelled]
  · rw [calls, stage]
    cases (report.state jobId).isTerminal <;> rfl
  · rw [GatewayState.refreshes_of_not_isTerminal underWay] at refreshes
    rw [(List.append_eq_nil_iff.mp refreshes).1, List.nil_append, follows]
  · rw [free, List.map_nil, List.append_nil, all]
  · rw [GatewayState.after_concat_ok]
  · rw [List.dropLast_concat]
    exact quiet
  · intro ends
    rw [stage, if_pos ends]

/-- What is owed is refreshed. -/
theorem announce (polls : Polls jobId grace replies calls refreshes owed slot poll) :
    Polls jobId grace replies calls (refreshes ++ owed.asked) .never slot poll where
  subject := polls.subject
  notCancelled := polls.notCancelled
  calls := polls.calls
  refreshes := by rw [Refresh.asked, List.append_nil, polls.refreshes]
  settled := polls.settled
  ended := polls.ended

/-- **Each event of a launch poll keeps what it has made of the replies.** -/
theorem advance
    (polls : Polls jobId c.cadence.grace replies calls refreshes (c.owes i) c.slot poll)
    (found : c.loops[i]? = some poll) {event : LoopEvent GatewayReport}
    (fits : event.fits poll.stage = true) :
    Polls jobId c.cadence.grace (replies ++ event.replies)
      (calls ++ (c.advance i event).2.calls) refreshes ((c.advance i event).1.owes i)
      (c.advance i event).1.slot (poll.advance enter event) := by
  have subject := polls.subject
  have notCancelled := polls.notCancelled
  cases event with
  | serve now =>
      cases stage : poll.stage with
      | waiting =>
          simp only [LoopEvent.replies, Controller.advance, Effects.none, List.append_nil]
          exact polls.serve stage now
      | ticked | asking | holding _ | returned => simp [LoopEvent.fits, stage] at fits
  | ask =>
      cases stage : poll.stage with
      | ticked =>
          have asks : (c.ask i).2 = some jobId := by
            simp [Controller.ask, PollLoops.ask, found, PollLoop.ask, stage, notCancelled, subject]
          simp only [LoopEvent.replies, Controller.advance, List.append_nil, asks,
            Option.toList_some, List.map_cons, List.map_nil]
          exact polls.ask stage
      | waiting | asking | holding _ | returned => simp [LoopEvent.fits, stage] at fits
  | receive answer =>
      cases stage : poll.stage with
      | asking =>
          simp only [LoopEvent.replies, Controller.advance, Effects.none, List.append_nil]
          cases answer with
          | error e => exact polls.receive_error stage e
          | ok report => exact polls.receive_ok stage report
      | waiting | ticked | holding _ | returned => simp [LoopEvent.fits, stage] at fits
  | publish =>
      cases stage : poll.stage with
      | holding report =>
          simp only [LoopEvent.replies, Controller.advance, Effects.none, List.append_nil]
          rw [Controller.publish_of_not_cancelled found stage notCancelled, subject,
            Controller.owe_owes_self, Controller.owe_slot]
          exact polls.publish stage (c.asked_refreshOn _)
      | waiting | ticked | asking | returned => simp [LoopEvent.fits, stage] at fits

end Polls

end LaunchPoll

/-! ## What a run asks of others -/

/-- The reply that an event brings to a launch poll, if it brings one. -/
def LaunchEvent.replies : LaunchEvent → List (Except Error GatewayReport)
  | step event => event.replies
  | announce => []

/-- The replies that come to the launch poll at a place, errors among them, in order. -/
def repliesAt (i : Nat) (meanwhile : List (Nat × LaunchEvent)) :
    List (Except Error GatewayReport) :=
  meanwhile.flatMap fun e => if e.1 = i then e.2.replies else []

theorem repliesAt_append (i : Nat) (meanwhile later : List (Nat × LaunchEvent)) :
    repliesAt i (meanwhile ++ later) = repliesAt i meanwhile ++ repliesAt i later :=
  List.flatMap_append

namespace GatewayExecution

/-- The calls that are made in the course of events, in order. -/
def callsOf (x : GatewayExecution) : List GatewayEvent → List Call
  | [] => []
  | event :: rest =>
    match x.step? event with
    | none => []
    | some (y, effects) => effects.calls ++ y.callsOf rest

variable {x y z : GatewayExecution} {event : GatewayEvent} {events : List GatewayEvent}
variable {effects : Effects} {i k : Nat} {poll : LaunchPoll} {jobId : String} {grace : Nat}
variable {replies : List (Except Error GatewayReport)} {calls : List Call}
variable {refreshes : List Refresh} {meanwhile : List (Nat × LaunchEvent)}

/-! ## A launch under way -/

/-- A launch is polled by the launch poll at a place, and by no other. -/
structure Launching (jobId : String) (grace i : Nat)
    (replies : List (Except Error GatewayReport)) (calls : List Call) (refreshes : List Refresh)
    (x : GatewayExecution) : Prop where
  tidy : x.controller.Tidy
  delay : x.controller.cadence.grace = grace
  polls : ∃ poll, x.controller.loops[i]? = some poll ∧
    LaunchPoll.Polls jobId grace replies calls refreshes (x.controller.owes i) x.controller.slot
      poll

/-- What the answer to a start begins with. -/
theorem Launching.first {now : Nat} (tidy : x.controller.Tidy)
    (unowed : x.controller.owes x.controller.loops.length = .never) :
    Launching jobId x.controller.cadence.grace x.controller.loops.length [] [] []
      ⟨x.controller.startPoll jobId now, .free⟩ where
  tidy := tidy.start rfl
  delay := rfl
  polls := by
    refine ⟨_, PollLoops.getElem?_start_last _ _, ?_⟩
    change LaunchPoll.Polls _ _ _ _ _ (x.controller.owes x.controller.loops.length) _ _
    rw [unowed]
    exact LaunchPoll.Polls.fresh

/-- The launch poll of the launch goes on in its loop, or another one does, which is silent. -/
theorem Launching.loop (launching : Launching jobId grace i replies calls refreshes x)
    {next : LoopEvent GatewayReport} (found : x.controller.loops[k]? = some poll)
    (fits : next.fits poll.stage = true) :
    Launching jobId grace i (replies ++ repliesAt i [(k, .step next)])
      (calls ++ (x.controller.advance k next).2.calls) refreshes
      { x with controller := (x.controller.advance k next).1 } := by
  obtain ⟨tidy, rfl, own, there, polls⟩ := launching
  refine ⟨?_, by rw [Controller.advance_cadence], ?_⟩
  · rw [Controller.advance_loops found fits]
    exact tidy.update k fun l => l.advance_cancelled LaunchPoll.enter_cancelled next
  · by_cases same : k = i
    · subst same
      rw [found] at there
      obtain rfl := Option.some.inj there
      refine ⟨_, getElem?_advance found fits, ?_⟩
      simpa [repliesAt, LaunchEvent.replies] using polls.advance found fits
    · -- Only one loop was not cancelled.
      have cancelled : poll.cancelled = true := by
        cases mark : poll.cancelled with
        | true => rfl
        | false =>
            have held := (tidy i).mpr ⟨own, there, polls.notCancelled⟩
            have alsoHeld := (tidy k).mpr ⟨poll, found, mark⟩
            rw [held] at alsoHeld
            exact absurd (Option.some.inj alsoHeld).symm same
      obtain ⟨slot, silent⟩ := Controller.advance_of_cancelled found cancelled next
      refine ⟨own, ?_, ?_⟩
      · rw [Controller.advance_loops found fits, PollLoops.getElem?_update_ne _ _ same, there]
      · rw [slot, silent, Controller.advance_owes_of_ne next fun same' => same same'.symm]
        simpa [repliesAt, same, Effects.none] using polls

/-- The launch poll of the launch announces what it owes, or another one what is left to it. -/
theorem Launching.announce (launching : Launching jobId grace i replies calls refreshes x) :
    Launching jobId grace i replies calls
      (refreshes ++ if k = i then (x.controller.owes k).asked else [])
      { x with controller := x.controller.owe k .never } := by
  obtain ⟨tidy, delay, own, there, polls⟩ := launching
  refine ⟨tidy, delay, own, there, ?_⟩
  by_cases same : k = i
  · subst same
    rw [if_pos rfl, Controller.owe_owes_self]
    exact polls.announce
  · rw [if_neg same, List.append_nil, Controller.owe_owes_of_ne _ fun same' => same same'.symm]
    exact polls

/-- **What happens to launch polls** in one event. -/
theorem Launching.step (launching : Launching jobId grace i replies calls refreshes x)
    {next : LaunchEvent} (step : Step x (.loop k next) y effects) :
    Launching jobId grace i (replies ++ repliesAt i [(k, next)]) (calls ++ effects.calls)
      (refreshes ++ if (GatewayEvent.loop k next).isOf i then effects.refresh.asked else []) y := by
  cases step with
  | loop found fits =>
      simpa [Refresh.asked] using launching.loop found fits
  | announced owed =>
      simpa [repliesAt, LaunchEvent.replies, GatewayEvent.isOf] using launching.announce (k := k)

/-- **What happens to launch polls** in the course of a run. -/
theorem Launching.run (launching : Launching jobId grace i replies calls refreshes x)
    (goesOn : x.run? (pollEvents meanwhile) = some y) :
    Launching jobId grace i (replies ++ repliesAt i meanwhile)
      (calls ++ x.callsOf (pollEvents meanwhile))
      (refreshes ++ x.refreshesBy i (pollEvents meanwhile)) y := by
  induction meanwhile generalizing x replies calls refreshes with
  | nil =>
      obtain rfl := Option.some.inj goesOn
      simpa [repliesAt, pollEvents, callsOf, refreshesBy] using launching
  | cons first rest ih =>
      rw [pollEvents, List.map_cons, run?, runFrom?_cons, Option.bind_eq_some_iff] at goesOn
      obtain ⟨middle, stepped, goesOn⟩ := goesOn
      obtain ⟨⟨_, effects⟩, step, rfl⟩ := Option.map_eq_some_iff.mp stepped
      have later := ih (launching.step (step_of_step? step)) goesOn
      rw [List.append_assoc, List.append_assoc, List.append_assoc, ← repliesAt_append,
        List.singleton_append] at later
      simpa only [pollEvents, List.map_cons, callsOf, refreshesBy, step] using later

/-! ## A launch poll that has returned -/

/-- The launch poll at a place has returned. -/
def HasReturned (i : Nat) (x : GatewayExecution) : Prop :=
  ∃ poll, x.controller.loops[i]? = some poll ∧ poll.stage = .returned

/-- A launch poll that has returned never takes part in its loop again, whatever happens. -/
theorem HasReturned.step (returned : HasReturned i x) (step : Step x event y effects) :
    HasReturned i y := by
  obtain ⟨poll, found, stage⟩ := returned
  have inside : i < x.controller.loops.length := (List.getElem?_eq_some_iff.mp found).1
  obtain ⟨later, there, same⟩ := PollLoops.exists_getElem?_release _ found
  have stays : later.stage = .returned := by rcases same with rfl | rfl <;> exact stage
  cases step with
  | refused _ _ | asked _ _ | alreadyRunning _ _ _ | concluded _ _ _ _ _ | abandoned _
  | announced _ => exact ⟨poll, found, stage⟩
  | stopped _ | dropped _ => exact ⟨later, there, stays⟩
  | launched now _ _ =>
      exact ⟨later, (PollLoops.getElem?_start_lt _ _ inside).trans there, stays⟩
  | @loop k next other told fits =>
      have different : k ≠ i := by
        rintro rfl
        obtain rfl := Option.some.inj (found.symm.trans told)
        rw [stage] at fits
        cases next <;> cases fits
      refine ⟨poll, ?_, stage⟩
      rw [Controller.advance_loops told fits, PollLoops.getElem?_update_ne _ _ different, found]

/-- Nothing happens in the loop of a launch poll that has returned. -/
theorem HasReturned.step?_eq_none (returned : HasReturned i x) (run : x.run? events = some y)
    (next : LoopEvent GatewayReport) : y.step? (.loop i (.step next)) = none := by
  obtain ⟨poll, found, stage⟩ : HasReturned i y := by
    refine run?_induction (fun _ y => HasReturned i y) returned ?_ run
    exact fun _ _ _ _ _ before step => before.step step
  have unfit : next.fits poll.stage = false := by
    rw [stage]
    cases next <;> rfl
  simp [step?, found, unfit]

/-! ## Every list of replies -/

/-- The replies up to the first that ends a launch. -/
def untilEnd (jobId : String) :
    List (Except Error GatewayReport) → List (Except Error GatewayReport)
  | [] => []
  | reply :: rest =>
    if endsLaunch jobId reply then [reply] else reply :: untilEnd jobId rest

/-- A tick of the launch poll at a place, its request, the reply, and what it makes of the
reply. -/
def launchRound (i : Nat) (reply : Except Error GatewayReport) :
    List (Nat × LaunchEvent) :=
  [(i, .serve 0), (i, .ask), (i, .receive reply)] ++
    match reply with
    | .ok _ => [(i, .publish)]
    | .error _ => []

theorem repliesAt_launchRound (i : Nat) (reply : Except Error GatewayReport) :
    repliesAt i (launchRound i reply) = [reply] := by
  cases reply <;> simp [launchRound, repliesAt, LaunchEvent.replies, LoopEvent.replies]

theorem pollEvents_append (meanwhile later : List (Nat × LaunchEvent)) :
    pollEvents (meanwhile ++ later) = pollEvents meanwhile ++ pollEvents later :=
  List.map_append

/-- What fits a launch poll can happen to it. -/
theorem exists_run_loop (found : x.controller.loops[i]? = some poll)
    (next : LoopEvent GatewayReport) (fits : next.fits poll.stage = true) :
    ∃ y, x.run? (pollEvents [(i, .step next)]) = some y ∧
      y.controller.loops[i]? = some (poll.advance LaunchPoll.enter next) := by
  refine ⟨{ x with controller := (x.controller.advance i next).1 }, ?_, getElem?_advance found fits⟩
  simp [pollEvents, run?, runFrom?_cons, step?_loop found fits]

/-- A waiting launch poll gets through a round, and waits for the next tick unless its launch has
come to an end. -/
theorem exists_run_launchRound (found : x.controller.loops[i]? = some poll)
    (notCancelled : poll.cancelled = false) (waiting : poll.stage = .waiting)
    (reply : Except Error GatewayReport) :
    ∃ y later, x.run? (pollEvents (launchRound i reply)) = some y ∧
      y.controller.loops[i]? = some later ∧ later.subject = poll.subject ∧
      later.cancelled = false ∧
      later.stage = if endsLaunch poll.subject reply then .returned else .waiting := by
  obtain ⟨served, first, there⟩ := exists_run_loop found (.serve 0)
    (by simp [LoopEvent.fits, waiting])
  have ticked : (poll.serve 0).stage = .ticked := by simp [PollLoop.serve, waiting, notCancelled]
  obtain ⟨asked, second, there⟩ := exists_run_loop there .ask
    (by simp [PollLoop.advance, LoopEvent.fits, ticked])
  have asking : (poll.serve 0).ask.1.stage = .asking := by
    simp [PollLoop.ask, ticked, notCancelled]
  obtain ⟨received, third, there⟩ := exists_run_loop there (.receive reply)
    (by simp [PollLoop.advance, LoopEvent.fits, asking])
  have sofar := runFrom?_trans (runFrom?_trans first second) third
  cases reply with
  | error e =>
      refine ⟨received, _, sofar, there, ?_, ?_, ?_⟩
      · simp [PollLoop.advance]
      · simp [PollLoop.advance, notCancelled]
      · simp [PollLoop.advance, PollLoop.receive, asking, notCancelled, endsLaunch]
  | ok report =>
      have holding : ((poll.serve 0).ask.1.receive (.ok report)).stage = .holding report := by
        simp [PollLoop.receive, asking, notCancelled]
      obtain ⟨published, fourth, there⟩ := exists_run_loop there .publish
        (by simp [PollLoop.advance, LoopEvent.fits, holding])
      refine ⟨published, _, runFrom?_trans sofar fourth, there, ?_, ?_, ?_⟩
      · simp [PollLoop.advance]
      · simp [PollLoop.advance, notCancelled]
      · cases ends : (report.state poll.subject).isTerminal <;>
          simp [PollLoop.advance, LaunchPoll.enter, holding, notCancelled, endsLaunch, ends]

/-- **A waiting launch poll takes any replies**, one after the other, up to one that ends its
launch. -/
theorem exists_run_of_launchReplies (found : x.controller.loops[i]? = some poll)
    (notCancelled : poll.cancelled = false) (waiting : poll.stage = .waiting)
    (replies : List (Except Error GatewayReport)) :
    ∃ meanwhile y later, x.run? (pollEvents meanwhile) = some y ∧
      repliesAt i meanwhile = untilEnd poll.subject replies ∧
      y.controller.loops[i]? = some later ∧ later.inHand = [] := by
  induction replies generalizing x poll with
  | nil => exact ⟨[], x, poll, rfl, rfl, found, by simp [PollLoop.inHand, waiting]⟩
  | cons reply rest ih =>
      obtain ⟨y, later, run, there, same, alive, stage⟩ :=
        exists_run_launchRound found notCancelled waiting reply
      cases ends : endsLaunch poll.subject reply with
      | true =>
          rw [ends, if_pos rfl] at stage
          refine ⟨launchRound i reply, y, later, run, ?_, there, ?_⟩
          · simp [repliesAt_launchRound, untilEnd, ends]
          · simp [PollLoop.inHand, stage]
      | false =>
          rw [ends, if_neg Bool.false_ne_true] at stage
          obtain ⟨meanwhile, z, last, goesOn, replies, found, free⟩ := ih there alive stage
          refine ⟨launchRound i reply ++ meanwhile, z, last, ?_, ?_, found, free⟩
          · rw [pollEvents_append]
            exact runFrom?_trans run goesOn
          · rw [repliesAt_append, repliesAt_launchRound, replies, same]
            simp [untilEnd, ends]

/-- A launch poll can announce what it owes, and owes nothing then. -/
theorem exists_run_announced (x : GatewayExecution) (i : Nat) :
    ∃ meanwhile y, x.run? (pollEvents meanwhile) = some y ∧ repliesAt i meanwhile = [] ∧
      y.controller.loops = x.controller.loops ∧ y.controller.owes i = .never := by
  by_cases paid : x.controller.owes i = .never
  · exact ⟨[], x, rfl, rfl, rfl, paid⟩
  · refine ⟨[(i, .announce)], { x with controller := x.controller.owe i .never }, ?_, ?_, rfl, ?_⟩
    · simp [pollEvents, run?, runFrom?_cons, step?_announce paid]
    · simp [repliesAt, LaunchEvent.replies]
    · exact Controller.owe_owes_self _

end GatewayExecution

/-! ## What is refreshed -/

/-- What becomes of a stage by the refreshes that a launch asks for by the time that it is in a
state. When it runs, each loop that the controller refreshes was fired once, and nothing is to be
done later. When its script has exited, no loop was fired, and one request for each of them is to be
made after the grace: of all that stands on the agenda later, or was made by then, what has come on
it since are reports on launches. Otherwise nothing has changed. -/
def Stage.RefreshedBy (stage : Stage) (grace : Nat) (refreshes : List Refresh) :
    GatewayState → Prop
  | .running _ =>
    (refreshes.foldl Stage.refresh stage).requests = stage.requests ∧
      ∀ trigger, (refreshes.foldl Stage.refresh stage).loop? trigger =
        (stage.loop? trigger).map (RefreshLoop.fire^[stage.refreshed.count trigger])
  | .scriptExited _ =>
    (∀ trigger, (refreshes.foldl Stage.refresh stage).loop? trigger = stage.loop? trigger) ∧
      ∀ trace later, (refreshes.foldl Stage.refresh stage).Proceeds trace later →
        ∃ others,
          (requestsOf trace ++ later.requests).Perm
            (stage.requests ++ stage.refreshed.map (stage.now + grace, ·) ++ others) ∧
          ((∀ e ∈ trace, e.2.isLaunchReply = false) → others = []) ∧
          ∀ request ∈ later.requests, later.now ≤ request.1
  | .idle | .starting .. | .failed _ => refreshes.foldl Stage.refresh stage = stage

/-- The refreshes of a launch in a state do what they should. -/
theorem Stage.refreshedBy_refreshes (stage : Stage) (grace : Nat) (state : GatewayState) :
    stage.RefreshedBy grace (state.refreshes grace) state := by
  cases state with
  | idle | starting _ _ | failed _ => rfl
  | running pid =>
      refine ⟨?_, stage.loop?_refresh_now⟩
      exact (stage.requests_refresh .now).1.trans (List.append_nil _)
  | scriptExited message =>
      refine ⟨stage.loop?_refresh_later grace, fun trace later course => ?_⟩
      obtain ⟨others, made, quiet⟩ := Stage.Proceeds.requests course
      refine ⟨others, ?_, quiet, fun request stands => Stage.le_of_mem_requests stands⟩
      exact (stage.requests_refresh (.later grace)).1 ▸ made

/-! ## Every launch -/

namespace GatewayExecution

variable {x y : GatewayExecution} {events : List GatewayEvent} {effects : Effects}

/-- The place of the launch poll that will be started next. -/
abbrev nextPlace (x : GatewayExecution) : Nat := x.controller.loops.length

/-- **Polling a launch follows its last report.**  After every run, when a start is answered with a
launch, whatever the launch polls do and whatever they are told, as long as the caller does nothing:
all replies to the new launch poll but a report in its hand are settled, and the slot is in the
state that the last report among them puts the launch into, or in the first state of a launch when
there was none; errors leave no trace.  Only the last of them may have ended the launch.  There was
one question for each reply, and one more while the launch poll waits for its reply, and nobody
else has asked for anything.  Once the launch has come to an end its launch poll has returned, and
nothing ever happens in its loop again; it announces what it owes then, and nothing else.  What it
has refreshed and what it owes are the refreshes of the state, and what it owes it can announce at
once; the launch polls of earlier launches have refreshed only what they owed before.  Every list of
replies may come, up to the first that ends the launch, and all that follows be announced. -/
theorem launch_refines_transition {cadence : Cadence} {answer : ControlReply} {jobId : String}
    {now : Nat} (run : (start cadence).run? events = some x)
    (answered : x.step? (.answered .gatewayStart (.ok answer) now) = some (y, effects))
    (launch : answer.launch = .launched jobId) :
    effects = .none ∧
    (∀ meanwhile z, y.run? (pollEvents meanwhile) = some z →
      ∃ poll settled, z.controller.loops[x.nextPlace]? = some poll ∧
        repliesAt x.nextPlace meanwhile = settled ++ poll.inHand.map .ok ∧
        z.controller.slot = .after jobId settled ∧
        (∀ reply ∈ settled.dropLast, endsLaunch jobId reply = false) ∧
        y.callsOf (pollEvents meanwhile) =
          List.replicate ((repliesAt x.nextPlace meanwhile).length + poll.stage.isAsking.toNat)
            (.gatewayJob jobId) ∧
        (z.controller.slot.isTerminal = true → poll.stage = .returned ∧
          ∀ later w, z.run? later = some w →
            (∀ next, w.step? (.loop x.nextPlace (.step next)) = none) ∧
            z.refreshesBy x.nextPlace later ++ (w.controller.owes x.nextPlace).asked =
              (z.controller.owes x.nextPlace).asked) ∧
        y.refreshesBy x.nextPlace (pollEvents meanwhile) ++
            (z.controller.owes x.nextPlace).asked =
          z.controller.slot.refreshes cadence.grace ∧
        (z.controller.owes x.nextPlace ≠ .never → ∃ w,
          z.step? (.loop x.nextPlace .announce) =
            some (w, ⟨[], z.controller.owes x.nextPlace⟩)) ∧
        (∀ i < x.nextPlace, y.refreshesBy i (pollEvents meanwhile) ++
          (z.controller.owes i).asked = (x.controller.owes i).asked) ∧
        ∀ stage : Stage, stage.RefreshedBy cadence.grace
          (y.refreshesBy x.nextPlace (pollEvents meanwhile) ++
            (z.controller.owes x.nextPlace).asked) z.controller.slot) ∧
    (0 < cadence.poll → ∀ replies, ∃ meanwhile z, y.run? (pollEvents meanwhile) = some z ∧
      repliesAt x.nextPlace meanwhile = untilEnd jobId replies ∧
      z.controller.slot = .after jobId (untilEnd jobId replies) ∧
      z.controller.owes x.nextPlace = .never) := by
  have tidy := tidy_of_run? run
  have periods : x.controller.cadence = cadence := cadence_of_run? run
  obtain ⟨rfl, rfl⟩ : effects = .none ∧ y = ⟨x.controller.startPoll jobId now, .free⟩ := by
    cases step_of_step? answered with
    | launched _ _ also =>
        obtain rfl := LaunchReply.launched.inj (launch.symm.trans also)
        exact ⟨rfl, rfl⟩
    | alreadyRunning _ _ also => cases launch.symm.trans also
    | concluded _ _ _ _ unwritten =>
        rw [GatewayEvent.writes, launch] at unwritten
        cases unwritten
  have first : Launching jobId cadence.grace x.controller.loops.length [] [] []
      ⟨x.controller.startPoll jobId now, .free⟩ := by
    exact congrArg Cadence.grace periods ▸
      Launching.first tidy (unowed_of_run? run (Nat.le_refl _))
  refine ⟨rfl, ?_, ?_⟩
  · intro meanwhile z goesOn
    obtain ⟨-, -, poll, found, polls⟩ := first.run goesOn
    obtain ⟨settled, replies, slot, earlier⟩ := polls.settled
    have refreshes := polls.refreshes
    rw [List.nil_append] at replies refreshes
    refine ⟨poll, settled, found, replies, slot, earlier, polls.calls, ?_, refreshes, ?_, ?_, ?_⟩
    · intro terminal
      have returned := polls.ended terminal
      refine ⟨returned, fun later w goesOn => ⟨fun next => ?_, ?_⟩⟩
      · exact HasReturned.step?_eq_none ⟨poll, found, returned⟩ goesOn next
      · refine owed_of_ended ⟨poll, found, ?_⟩ goesOn
        simp [PollLoop.isLive, returned, LoopStage.hasReturned]
    · exact fun owed => ⟨_, step?_announce owed⟩
    · intro i earlier
      -- The launch polls of earlier launches were cancelled when the new one was started.
      obtain ⟨old, there⟩ : ∃ old, x.controller.release.loops[i]? = some old :=
        ⟨_, List.getElem?_eq_getElem (by rwa [PollLoops.length_release])⟩
      refine owed_of_ended (ended_of_cancelled ⟨old, ?_, tidy.cancelled_of_release there⟩) goesOn
      exact (PollLoops.getElem?_start_lt _ _ earlier).trans there
    · intro stage
      rw [refreshes]
      exact stage.refreshedBy_refreshes cadence.grace z.controller.slot
  · intro positive replies
    have there := PollLoops.getElem?_start_last x.controller.toPollLoops
      ⟨jobId, (Ticker.start x.controller.cadence.poll now).serve now,
        .first x.controller.cadence.poll, false⟩
    have waiting : (LoopStage.first x.controller.cadence.poll : LoopStage GatewayReport) =
        .waiting := by
      rw [LoopStage.first, periods, if_neg (by omega)]
    obtain ⟨meanwhile, z, poll, goesOn, taken, found, free⟩ :=
      exists_run_of_launchReplies (x := ⟨x.controller.startPoll jobId now, .free⟩) there rfl
        waiting replies
    obtain ⟨last, w, announced, untold, kept, paid⟩ := exists_run_announced z x.nextPlace
    have whole : run? ⟨x.controller.startPoll jobId now, .free⟩ (pollEvents (meanwhile ++ last)) =
        some w := by
      rw [pollEvents_append]
      exact runFrom?_trans goesOn announced
    have told : repliesAt x.nextPlace (meanwhile ++ last) = untilEnd jobId replies := by
      rw [repliesAt_append, untold, List.append_nil]
      exact taken
    refine ⟨meanwhile ++ last, w, whole, told, ?_, paid⟩
    obtain ⟨-, -, same, also, polls⟩ := first.run whole
    rw [kept] at also
    obtain rfl := Option.some.inj (found.symm.trans also)
    obtain ⟨settled, all, slot, -⟩ := polls.settled
    rw [free, List.map_nil, List.append_nil, List.nil_append, told] at all
    rw [slot, all]

/-- A first question that fails, a script that goes on, and a script that has exited, which is
announced. -/
def exitingScript : List (Nat × LaunchEvent) :=
  launchRound 0 (.error .unreachable) ++ launchRound 0 (.ok (launchReport "running")) ++
    launchRound 0 (.ok (launchReport "completed")) ++ [(0, .announce)]

/-- Three questions, and one refresh, which comes after the grace. -/
theorem launch_refines_transition_exitingScript :
    ∃ x y z effects, (start ⟨1000, 0, 1500⟩).run? [.execute .gatewayStart] = some x ∧
      x.step? (.answered .gatewayStart (.ok ⟨"launched", none, some "gw", none⟩) 40) =
        some (y, effects) ∧
      (⟨"launched", none, some "gw", none⟩ : ControlReply).launch = .launched "gw" ∧
      y.run? (pollEvents exitingScript) = some z ∧
      z.controller.slot = .scriptExited "Script finished" ∧
      y.callsOf (pollEvents exitingScript) = List.replicate 3 (.gatewayJob "gw") ∧
      y.refreshesBy 0 (pollEvents exitingScript) = [.later 1500] ∧
      ∀ later w, z.run? later = some w →
        (∀ next, w.step? (.loop 0 (.step next)) = none) ∧ z.refreshesBy 0 later = [] := by
  obtain ⟨x, y, z, effects, run, fresh, answered, goesOn, shown, paid⟩ : ∃ x y z effects,
      (start ⟨1000, 0, 1500⟩).run? [.execute .gatewayStart] = some x ∧
      x.nextPlace = 0 ∧
      x.step? (.answered .gatewayStart (.ok ⟨"launched", none, some "gw", none⟩) 40) =
        some (y, effects) ∧
      y.run? (pollEvents exitingScript) = some z ∧
      z.controller.slot = .scriptExited "Script finished" ∧ z.controller.owes 0 = .never :=
    ⟨_, _, _, _, rfl, rfl, rfl, rfl, rfl, rfl⟩
  have launch : (⟨"launched", none, some "gw", none⟩ : ControlReply).launch = .launched "gw" := by
    decide
  obtain ⟨-, follows, -⟩ := launch_refines_transition run answered launch
  obtain ⟨poll, settled, -, -, -, -, calls, ended, refreshes, -⟩ :=
    follows exitingScript z goesOn
  rw [fresh] at calls ended refreshes
  obtain ⟨returned, never⟩ := ended (by rw [shown]; rfl)
  rw [returned] at calls
  rw [shown, paid] at refreshes
  rw [paid] at never
  refine ⟨x, y, z, effects, run, answered, launch, goesOn, shown, calls, ?_, ?_⟩
  · rwa [Refresh.asked, List.append_nil] at refreshes
  · intro later w goesOn
    obtain ⟨silent, nothing⟩ := never later w goesOn
    exact ⟨silent, (List.append_eq_nil_iff.mp nothing).1⟩

end GatewayExecution

end StrategyDesk
