import StrategyDesk.Proofs.Backtest.Course
import StrategyDesk.Proofs.Backtest.StaleWrites

/-!
# Polling a job is a fold over its reports

A loop polls the progress of a job through ticks, requests, replies that may be errors, and writes
to the slot.  What comes out of all this is the course of the job: the reports are entered one after
the other, each job is shown, and the first report that ends the job is the last one.

## Main Definitions

* `BacktestExecution.momentsOf` — what happens to one loop in the course of a run
* `BacktestExecution.askedBy`, `BacktestExecution.publishedBy` — what it asks and publishes
* `BacktestLoop.Polls` — the invariant

## Main Statements

* `BacktestLoop.Polls.advance` — each event of a loop keeps the invariant
* `BacktestExecution.Ended.askedBy_eq_nil` — a loop whose job has come to an end never asks again
* `BacktestExecution.exists_run_of_replies` — a loop takes any replies up to one that ends its job
* `BacktestExecution.polling_refines_fold` — what follows for every run
-/

namespace StrategyDesk

/-! ## What happens to one loop -/

/-- The place of the loop that an event happens to, if it happens to one. -/
def BacktestEvent.place? : BacktestEvent → Option Nat
  | loop k _ => some k
  | run _ | answered .. | abandon | cancel | drop => none

/-- The reply that an event brings to the loop at a place, if it brings one. -/
def BacktestEvent.repliesTo (i : Nat) : BacktestEvent → List (Except Error BacktestProgress)
  | loop k event => if k = i then event.replies else []
  | run _ | answered .. | abandon | cancel | drop => []

/-- The replies to the questions of a loop, errors among them, in order. -/
def repliesTo (i : Nat) (events : List BacktestEvent) : List (Except Error BacktestProgress) :=
  events.flatMap (BacktestEvent.repliesTo i)

/-- Something that happens to a loop, with the execution before and after it and the calls that the
loop makes. -/
structure LoopMoment where
  before : BacktestExecution
  event : LoopEvent BacktestProgress
  after : BacktestExecution
  calls : List Call

/-- What the loop at a place writes to the slot: the slot after it has published, unless it was
cancelled. -/
def LoopMoment.written (i : Nat) (moment : LoopMoment) : List BacktestState :=
  match moment.event, moment.before.runner.loops[i]? with
  | .publish, some loop => if loop.cancelled then [] else [moment.after.runner.slot]
  | _, _ => []

namespace BacktestExecution

/-- What happens to the loop at a place in the course of a run. -/
def momentsOf (i : Nat) (x : BacktestExecution) : List BacktestEvent → List LoopMoment
  | [] => []
  | event :: rest =>
    match x.step? event with
    | none => []
    | some (y, calls) =>
      match event with
      | .loop k next =>
        if k = i then ⟨x, next, y, calls⟩ :: y.momentsOf i rest else y.momentsOf i rest
      | .run _ | .answered .. | .abandon | .cancel | .drop => y.momentsOf i rest

/-- The calls that a loop makes in the course of a run, in order. -/
def askedBy (i : Nat) (x : BacktestExecution) (events : List BacktestEvent) : List Call :=
  (x.momentsOf i events).flatMap LoopMoment.calls

/-- The states that a loop publishes in the course of a run, in order. -/
def publishedBy (i : Nat) (x : BacktestExecution) (events : List BacktestEvent) :
    List BacktestState :=
  (x.momentsOf i events).flatMap (LoopMoment.written i)

section Moments

variable {x y z : BacktestExecution} {events later : List BacktestEvent} {i : Nat}

/-- What happens to a loop in a run and in one that follows it. -/
theorem momentsOf_append (run : x.run? events = some y) :
    x.momentsOf i (events ++ later) = x.momentsOf i events ++ y.momentsOf i later := by
  induction events generalizing x with
  | nil =>
      obtain rfl := Option.some.inj run
      rfl
  | cons event events ih =>
      rw [run?, runFrom?_cons, Option.bind_eq_some_iff] at run
      obtain ⟨next, stepped, rest⟩ := run
      obtain ⟨⟨_, calls⟩, step, rfl⟩ := Option.map_eq_some_iff.mp stepped
      rw [List.cons_append, momentsOf, momentsOf, step]
      cases event with
      | loop k event =>
          simp only [ih rest]
          split <;> rfl
      | run _ | answered _ _ | abandon | cancel | drop => exact ih rest

/-- What happens elsewhere does not happen to the loop. -/
theorem momentsOf_of_ne {event : BacktestEvent} (elsewhere : event.place? ≠ some i) :
    x.momentsOf i [event] = [] := by
  unfold momentsOf
  split
  · rfl
  · cases event with
    | loop k next =>
        have different : k ≠ i := fun same => elsewhere (congrArg some same)
        simp [different, momentsOf]
    | run _ | answered _ _ | abandon | cancel | drop => rfl

theorem momentsOf_loop {next : LoopEvent BacktestProgress} {calls : List Call}
    (step : x.step? (.loop i next) = some (y, calls)) :
    x.momentsOf i [.loop i next] = [⟨x, next, y, calls⟩] := by
  simp [momentsOf, step]

theorem askedBy_append (run : x.run? events = some y) :
    x.askedBy i (events ++ later) = x.askedBy i events ++ y.askedBy i later := by
  rw [askedBy, momentsOf_append run, List.flatMap_append, askedBy, askedBy]

theorem askedBy_of_ne {event : BacktestEvent} (elsewhere : event.place? ≠ some i) :
    x.askedBy i [event] = [] := by
  rw [askedBy, momentsOf_of_ne elsewhere, List.flatMap_nil]

theorem askedBy_loop {next : LoopEvent BacktestProgress} {calls : List Call}
    (step : x.step? (.loop i next) = some (y, calls)) : x.askedBy i [.loop i next] = calls := by
  simp [askedBy, momentsOf_loop step]

theorem publishedBy_append (run : x.run? events = some y) :
    x.publishedBy i (events ++ later) = x.publishedBy i events ++ y.publishedBy i later := by
  rw [publishedBy, momentsOf_append run, List.flatMap_append, publishedBy, publishedBy]

theorem publishedBy_of_ne {event : BacktestEvent} (elsewhere : event.place? ≠ some i) :
    x.publishedBy i [event] = [] := by
  rw [publishedBy, momentsOf_of_ne elsewhere, List.flatMap_nil]

theorem publishedBy_loop {next : LoopEvent BacktestProgress} {calls : List Call}
    (step : x.step? (.loop i next) = some (y, calls)) :
    x.publishedBy i [.loop i next] = LoopMoment.written i ⟨x, next, y, calls⟩ := by
  simp [publishedBy, momentsOf_loop step]

end Moments

end BacktestExecution

theorem repliesTo_of_ne {event : BacktestEvent} {i : Nat} (elsewhere : event.place? ≠ some i) :
    repliesTo i [event] = [] := by
  cases event with
  | loop k next =>
      have different : k ≠ i := fun same => elsewhere (congrArg some same)
      simp [repliesTo, BacktestEvent.repliesTo, different]
  | run _ | answered _ _ | abandon | cancel | drop => rfl

@[simp] theorem repliesTo_append (i : Nat) (events later : List BacktestEvent) :
    repliesTo i (events ++ later) = repliesTo i events ++ repliesTo i later := by
  simp [repliesTo]

/-! ## The invariant -/

/-- What a loop that was not cancelled has made of the replies to its questions: all but a report
in its hand are entered and published, and only the last one may have ended the job. -/
structure BacktestLoop.Polls (replies : List (Except Error BacktestProgress)) (asked : List Call)
    (published : List BacktestState) (loop : BacktestLoop) : Prop where
  asked : asked =
    List.replicate (replies.length + if loop.stage = .asking then 1 else 0)
      (.backtestProgress loop.subject.id)
  settled : ∃ settled, replies = settled ++ loop.inHand.map .ok ∧
    loop.subject = .after loop.subject.id (reportsOf settled) ∧
    published = (BacktestJob.submitted loop.subject.id).course (reportsOf settled) ∧
    if loop.stage.hasReturned then
      settled = [] ∨ ∃ earlier last, settled = earlier ++ [last] ∧ endsJob last = true ∧
        ∀ reply ∈ earlier, endsJob reply = false
    else ∀ reply ∈ settled, endsJob reply = false

/-- The calls that an event makes a loop make that was not cancelled. -/
def BacktestLoop.asks (loop : BacktestLoop) : LoopEvent BacktestProgress → List Call
  | .ask => [.backtestProgress loop.subject.id]
  | .serve _ | .receive _ | .publish => []

/-- What an event makes a loop publish that was not cancelled. -/
def BacktestLoop.publishes (loop : BacktestLoop) : LoopEvent BacktestProgress → List BacktestState
  | .publish => [(enter loop).subject.state]
  | .serve _ | .ask | .receive _ => []

namespace BacktestLoop.Polls

variable {replies : List (Except Error BacktestProgress)} {asked : List Call}
variable {published : List BacktestState} {loop : BacktestLoop}

/-- A loop that was just started has asked for nothing and published nothing. -/
theorem fresh {id : String} {period : Nat} (subject : loop.subject = .started id)
    (stage : loop.stage = .first period) : Polls [] [] [] loop where
  asked := by cases period <;> simp [stage, LoopStage.first]
  settled := by
    refine ⟨[], by simp [loop.inHand_of_first stage], by rw [subject]; rfl, rfl, ?_⟩
    split
    · exact Or.inl rfl
    · simp

/-- The loop serves a tick. -/
theorem serve (polls : Polls replies asked published loop) (notCancelled : loop.cancelled = false)
    (waiting : loop.stage = .waiting) (now : Nat) :
    Polls replies asked published (loop.serve now) := by
  obtain ⟨asked, settled, replies, subject, published, goesOn⟩ := polls
  simp only [PollLoop.inHand, waiting, LoopStage.hasReturned] at asked replies goesOn
  have stage : (loop.serve now).stage = .ticked := by simp [PollLoop.serve, waiting, notCancelled]
  refine ⟨?_, settled, ?_, ?_, ?_, ?_⟩
  · simpa [stage] using asked
  · simpa [PollLoop.inHand, stage] using replies
  · simpa using subject
  · simpa using published
  · simpa [stage, LoopStage.hasReturned] using goesOn

/-- The loop asks. -/
theorem ask (polls : Polls replies asked published loop) (notCancelled : loop.cancelled = false)
    (ticked : loop.stage = .ticked) :
    Polls replies (asked ++ [.backtestProgress loop.subject.id]) published loop.ask.1 := by
  obtain ⟨asked, settled, replies, subject, published, goesOn⟩ := polls
  simp only [PollLoop.inHand, ticked, LoopStage.hasReturned] at asked replies goesOn
  have stage : loop.ask.1.stage = .asking := by simp [PollLoop.ask, ticked, notCancelled]
  refine ⟨?_, settled, ?_, ?_, ?_, ?_⟩
  · simp [stage, asked, List.replicate_succ']
  · simpa [PollLoop.inHand, stage] using replies
  · simpa using subject
  · simpa using published
  · simpa [stage, LoopStage.hasReturned] using goesOn

/-- An error comes back, and is settled at once. -/
theorem receive_error (polls : Polls replies asked published loop)
    (notCancelled : loop.cancelled = false) (asking : loop.stage = .asking) (e : Error) :
    Polls (replies ++ [.error e]) asked published (loop.receive (.error e)) := by
  obtain ⟨asked, settled, replies, subject, published, goesOn⟩ := polls
  simp only [PollLoop.inHand, asking, LoopStage.hasReturned] at asked replies goesOn
  have stage : (loop.receive (.error e)).stage = .waiting := by
    simp [PollLoop.receive, asking, notCancelled]
  have reports : reportsOf (settled ++ [.error e]) = reportsOf settled := by
    rw [reportsOf_append]
    exact List.append_nil _
  refine ⟨?_, settled ++ [.error e], ?_, ?_, ?_, ?_⟩
  · simpa [stage] using asked
  · simpa [PollLoop.inHand, stage] using replies
  · rw [reports]
    simpa using subject
  · rw [reports]
    simpa using published
  · simpa [stage, LoopStage.hasReturned, or_imp, forall_and, endsJob] using goesOn

/-- A report comes back, and is in the hand of the loop. -/
theorem receive_ok (polls : Polls replies asked published loop)
    (notCancelled : loop.cancelled = false) (asking : loop.stage = .asking)
    (report : BacktestProgress) :
    Polls (replies ++ [.ok report]) asked published (loop.receive (.ok report)) := by
  obtain ⟨asked, settled, replies, subject, published, goesOn⟩ := polls
  simp only [PollLoop.inHand, asking, LoopStage.hasReturned] at asked replies goesOn
  have stage : (loop.receive (.ok report)).stage = .holding report := by
    simp [PollLoop.receive, asking, notCancelled]
  refine ⟨?_, settled, ?_, ?_, ?_, ?_⟩
  · simpa [stage] using asked
  · simpa [PollLoop.inHand, stage] using replies
  · simpa using subject
  · simpa using published
  · simpa [stage, LoopStage.hasReturned] using goesOn

/-- The report in the hand of the loop is entered and published. -/
theorem publish (polls : Polls replies asked published loop) {report : BacktestProgress}
    (holding : loop.stage = .holding report) :
    Polls replies asked (published ++ [(enter loop).subject.state]) (enter loop) := by
  obtain ⟨asked, settled, replies, subject, published, goesOn⟩ := polls
  simp only [PollLoop.inHand, holding, LoopStage.hasReturned] at asked replies goesOn
  have stage : (enter loop).stage = if report.isFinal then .returned else .waiting := by
    rw [enter_of_holding holding, BacktestJob.apply_isTerminal]
  have entered : (enter loop).subject = loop.subject.apply report := by
    rw [enter_of_holding holding]
  have reports : reportsOf (settled ++ [.ok report]) = reportsOf settled ++ [report] :=
    reportsOf_append _ _
  have quietReplies : ∀ reply ∈ settled, endsJob reply = false := by simpa using goesOn
  have quiet : ∀ earlier ∈ reportsOf settled, earlier.isFinal = false :=
    fun earlier among => isFinal_eq_false_of_mem_reportsOf quietReplies among
  refine ⟨?_, settled ++ [.ok report], ?_, ?_, ?_, ?_⟩
  · rw [enter_id, stage, asked]
    cases report.isFinal <;> simp
  · cases final : report.isFinal <;> simpa [PollLoop.inHand, stage, final] using replies
  · rw [enter_id, entered, reports, BacktestJob.after_concat, ← subject]
  · -- The fold takes the report, since none before it ended the job.
    rw [enter_id, entered, reports, ← BacktestJob.course_started,
      BacktestJob.course_concat _ _ quiet, BacktestJob.course_started, published]
    change _ = _ ++ [((BacktestJob.after loop.subject.id _).apply report).state]
    rw [← subject]
  · rw [stage]
    cases final : report.isFinal with
    | true => exact Or.inr ⟨settled, .ok report, rfl, final, quietReplies⟩
    | false =>
        intro reply member
        rcases List.mem_append.mp member with member | member
        · exact quietReplies reply member
        · rw [List.mem_singleton.mp member]
          exact final

/-- **Each event of a loop keeps the invariant.** -/
theorem advance (polls : Polls replies asked published loop)
    (notCancelled : loop.cancelled = false) {event : LoopEvent BacktestProgress}
    (fits : event.fits loop.stage = true) :
    Polls (replies ++ event.replies) (asked ++ loop.asks event) (published ++ loop.publishes event)
      (loop.advance enter event) := by
  cases event with
  | serve now =>
      cases stage : loop.stage with
      | waiting =>
          simpa [LoopEvent.replies, asks, publishes, PollLoop.advance] using
            polls.serve notCancelled stage now
      | ticked | asking | holding _ | returned => simp [LoopEvent.fits, stage] at fits
  | ask =>
      cases stage : loop.stage with
      | ticked =>
          simpa [LoopEvent.replies, asks, publishes, PollLoop.advance] using
            polls.ask notCancelled stage
      | waiting | asking | holding _ | returned => simp [LoopEvent.fits, stage] at fits
  | receive answer =>
      cases stage : loop.stage with
      | asking =>
          simp only [LoopEvent.replies, asks, publishes, List.append_nil]
          cases answer with
          | error e => exact polls.receive_error notCancelled stage e
          | ok report => exact polls.receive_ok notCancelled stage report
      | waiting | ticked | holding _ | returned => simp [LoopEvent.fits, stage] at fits
  | publish =>
      cases stage : loop.stage with
      | holding report =>
          simpa [LoopEvent.replies, asks, publishes, PollLoop.advance] using polls.publish stage
      | waiting | ticked | asking | returned => simp [LoopEvent.fits, stage] at fits

/-- A loop with nothing in its hand has published the fold over all reports. -/
theorem published_of_free (polls : Polls replies asked published loop) (free : loop.inHand = []) :
    published = (BacktestJob.submitted loop.subject.id).course (reportsOf replies) := by
  obtain ⟨settled, replies, -, published, -⟩ := polls.settled
  rw [free, List.map_nil, List.append_nil] at replies
  rw [published, replies]

/-- A reply that ends the job is the last one: the loop has asked for none after it, and asks for
nothing any more. -/
theorem of_endsJob (polls : Polls replies asked published loop) {k : Nat}
    {reply : Except Error BacktestProgress} (there : replies[k]? = some reply)
    (ends : endsJob reply = true) :
    asked.length = k + 1 ∧ (loop.stage = .returned ∨
      ∃ report, loop.stage = .holding report ∧ report.isFinal = true) := by
  obtain ⟨asked, settled, replies, -, -, ended⟩ := polls
  have inside := (List.getElem?_eq_some_iff.mp there).1
  have notSettled {earlier : List (Except Error BacktestProgress)}
      (goesOn : ∀ reply ∈ earlier, endsJob reply = false) : earlier[k]? ≠ some reply := by
    intro found
    have goesOn := goesOn reply (List.mem_of_getElem? found)
    rw [ends] at goesOn
    cases goesOn
  rw [asked, List.length_replicate]
  cases stage : loop.stage with
  | waiting | ticked | asking =>
      simp only [PollLoop.inHand, stage, List.map_nil, List.append_nil] at replies
      simp only [stage, LoopStage.hasReturned, Bool.false_eq_true, if_false] at ended
      rw [replies] at there
      exact absurd there (notSettled ended)
  | holding report =>
      simp only [PollLoop.inHand, stage, List.map_cons, List.map_nil] at replies
      simp only [stage, LoopStage.hasReturned, Bool.false_eq_true, if_false] at ended
      rw [replies, List.getElem?_append] at there
      split at there
      · exact absurd there (notSettled ended)
      · obtain rfl : k = settled.length := by
          rw [replies, List.length_append, List.length_singleton] at inside
          omega
        simp only [Nat.sub_self, List.getElem?_cons_zero, Option.some.injEq] at there
        subst there
        exact ⟨by simp [replies], Or.inr ⟨report, rfl, ends⟩⟩
  | returned =>
      simp only [PollLoop.inHand, stage, List.map_nil, List.append_nil] at replies
      simp only [stage, LoopStage.hasReturned, if_true] at ended
      subst replies
      rcases ended with rfl | ⟨earlier, last, rfl, -, goesOn⟩
      · cases inside
      · rw [List.getElem?_append] at there
        split at there
        · exact absurd there (notSettled goesOn)
        · rw [List.length_append, List.length_singleton] at inside
          have last : k = earlier.length := by omega
          exact ⟨by simp [last], Or.inl rfl⟩

end BacktestLoop.Polls

/-! ## Runs -/

/-- A loop that was not cancelled makes the calls that its events make it make. -/
theorem BacktestRunner.advance_asks {r : BacktestRunner} {i : Nat} {loop : BacktestLoop}
    (found : r.loops[i]? = some loop) (notCancelled : loop.cancelled = false)
    {event : LoopEvent BacktestProgress} (fits : event.fits loop.stage = true) :
    (r.advance i event).2.toList.map .backtestProgress = loop.asks event := by
  cases event with
  | serve now | receive answer | publish => rfl
  | ask =>
      cases stage : loop.stage with
      | ticked =>
          simp [advance, ask, PollLoops.ask, found, PollLoop.ask, stage, notCancelled,
            BacktestLoop.asks]
      | waiting | asking | holding _ | returned => simp [LoopEvent.fits, stage] at fits

namespace BacktestExecution

variable {x y z : BacktestExecution} {event : BacktestEvent} {events : List BacktestEvent}
variable {calls : List Call} {i : Nat}

/-- What a loop writes that was not cancelled is what its event makes it publish. -/
theorem written_of_loop {next : LoopEvent BacktestProgress} {loop : BacktestLoop}
    (found : x.runner.loops[i]? = some loop) (notCancelled : loop.cancelled = false)
    (fits : next.fits loop.stage = true) (calls : List Call) :
    LoopMoment.written i ⟨x, next, { x with runner := (x.runner.advance i next).1 }, calls⟩ =
      loop.publishes next := by
  cases next with
  | serve now | ask | receive answer => rfl
  | publish =>
      cases stage : loop.stage with
      | holding report =>
          have slot := BacktestRunner.publish_slot found stage
          rw [notCancelled] at slot
          simp only [LoopMoment.written, found, notCancelled, BacktestLoop.publishes,
            BacktestLoop.enter_of_holding stage, BacktestRunner.advance]
          rw [slot]
          rfl
      | waiting | ticked | asking | returned => simp [LoopEvent.fits, stage] at fits

/-- What a run from an execution on has made of the loops. -/
structure Polled (start : BacktestExecution) (events : List BacktestEvent)
    (x : BacktestExecution) : Prop where
  polls : ∀ i loop, x.runner.loops[i]? = some loop → loop.cancelled = false →
    BacktestLoop.Polls (repliesTo i events) (start.askedBy i events) (start.publishedBy i events)
      loop
  /-- Nothing happens to a loop that was not started. -/
  fresh : ∀ i, x.runner.loops.length ≤ i → repliesTo i events = [] ∧ start.momentsOf i events = []

namespace Polled

/-- What happens elsewhere brings no reply to the loop and does not happen to it. -/
theorem unmoved (run : x.run? events = some y) (elsewhere : event.place? ≠ some i) :
    repliesTo i (events ++ [event]) = repliesTo i events ∧
      x.momentsOf i (events ++ [event]) = x.momentsOf i events := by
  refine ⟨?_, ?_⟩
  · rw [repliesTo_append, repliesTo_of_ne elsewhere, List.append_nil]
  · rw [momentsOf_append run, momentsOf_of_ne elsewhere, List.append_nil]

/-- The invariant holds after an event that at most lets a loop go. -/
theorem quiet (polled : Polled x events y) (run : x.run? events = some y)
    (tidy : y.runner.Tidy) (nowhere : event.place? = none)
    (loops : z.runner.toPollLoops = y.runner.toPollLoops ∨
      z.runner.toPollLoops = y.runner.release) : Polled x (events ++ [event]) z := by
  have elsewhere (i : Nat) : event.place? ≠ some i := by rw [nowhere]; exact nofun
  rcases loops with same | released
  · refine ⟨?_, ?_⟩
    · intro i loop found notCancelled
      rw [same] at found
      rw [askedBy, publishedBy, (unmoved run (elsewhere i)).1, (unmoved run (elsewhere i)).2]
      exact polled.polls i loop found notCancelled
    · intro i beyond
      rw [same] at beyond
      rw [(unmoved run (elsewhere i)).1, (unmoved run (elsewhere i)).2]
      exact polled.fresh i beyond
  · refine ⟨?_, ?_⟩
    · intro i loop found notCancelled
      rw [released] at found
      have cancelled := tidy.cancelled_of_release found
      rw [notCancelled] at cancelled
      cases cancelled
    · intro i beyond
      rw [released, PollLoops.length_release] at beyond
      rw [(unmoved run (elsewhere i)).1, (unmoved run (elsewhere i)).2]
      exact polled.fresh i beyond

/-- The invariant holds when the engine took a submission. -/
theorem taken (polled : Polled x events y) (run : x.run? events = some y)
    (tidy : y.runner.Tidy) (id : String) (now : Nat) :
    Polled x (events ++ [.answered (.ok id) now]) ⟨y.runner.conclude (.ok id) now, .free⟩ := by
  have elsewhere (i : Nat) : (BacktestEvent.answered (.ok id) now).place? ≠ some i := nofun
  refine ⟨?_, ?_⟩
  · -- All loops but the new one were let go.
    intro i loop found notCancelled
    have held := (tidy.start rfl i).mpr ⟨loop, found, notCancelled⟩
    obtain rfl := Option.some.inj held
    rw [BacktestRunner.conclude, PollLoops.getElem?_start_last] at found
    obtain rfl := Option.some.inj found
    obtain ⟨replies, moments⟩ := polled.fresh _ (Nat.le_refl _)
    rw [askedBy, publishedBy, (unmoved run (elsewhere _)).1, (unmoved run (elsewhere _)).2,
      replies, moments]
    exact .fresh rfl rfl
  · intro i beyond
    rw [(unmoved run (elsewhere i)).1, (unmoved run (elsewhere i)).2]
    refine polled.fresh i ?_
    simp only [BacktestRunner.conclude, PollLoops.length_start] at beyond
    omega

/-- The invariant holds after a step of a loop. -/
theorem loop (polled : Polled x events y) (run : x.run? events = some y)
    {next : LoopEvent BacktestProgress} {loop : BacktestLoop}
    (step : y.step? (.loop i next) = some (z, calls))
    (found : y.runner.loops[i]? = some loop) (fits : next.fits loop.stage = true)
    (after : z = { y with runner := (y.runner.advance i next).1 })
    (made : calls = (y.runner.advance i next).2.toList.map .backtestProgress) :
    Polled x (events ++ [.loop i next]) z := by
  have loops : z.runner.toPollLoops =
      y.runner.update i fun l => l.advance BacktestLoop.enter next := by
    rw [after]
    exact BacktestRunner.advance_loops found fits
  refine ⟨?_, ?_⟩
  · intro j later there notCancelled
    rw [loops] at there
    rw [repliesTo_append, askedBy_append run, publishedBy_append run]
    rcases PollLoops.getElem?_update_eq_some _ there with
      ⟨rfl, old, before, rfl⟩ | ⟨different, before⟩
    · rw [found] at before
      obtain rfl := Option.some.inj before
      rw [PollLoop.advance_cancelled _ BacktestLoop.enter_cancelled] at notCancelled
      rw [askedBy_loop step, publishedBy_loop step]
      have kept := (polled.polls i loop found notCancelled).advance notCancelled fits
      rw [← BacktestRunner.advance_asks found notCancelled fits, ← made,
        ← written_of_loop found notCancelled fits calls, ← after] at kept
      simpa [repliesTo, BacktestEvent.repliesTo] using kept
    · have elsewhere : (BacktestEvent.loop i next).place? ≠ some j := by
        simpa [BacktestEvent.place?] using different
      rw [repliesTo_of_ne elsewhere, askedBy_of_ne elsewhere, publishedBy_of_ne elsewhere]
      simpa using polled.polls j later before notCancelled
  · intro j beyond
    rw [loops, PollLoops.length_update] at beyond
    have inside : i < y.runner.loops.length := (List.getElem?_eq_some_iff.mp found).1
    have elsewhere : (BacktestEvent.loop i next).place? ≠ some j := by
      simp only [BacktestEvent.place?, ne_eq, Option.some.injEq]
      omega
    rw [(unmoved run elsewhere).1, (unmoved run elsewhere).2]
    exact polled.fresh j beyond

end Polled

theorem start_polled (interval : Nat) : Polled (start interval) [] (start interval) where
  polls i loop found := by cases found
  fresh i _ := ⟨rfl, rfl⟩

/-- The invariant holds after every run. -/
theorem polled_of_run? {interval : Nat} (run : (start interval).run? events = some x) :
    Polled (start interval) events x := by
  refine runFrom?_induction (Polled (start interval)) (start_polled interval) ?_ run
  intro events y event z run polled stepped
  obtain ⟨⟨z, calls⟩, step, rfl⟩ := Option.map_eq_some_iff.mp stepped
  have tidy := tidy_of_run? run
  cases step_of_step? step with
  | refused _ _ | abandoned _ => exact polled.quiet run tidy rfl (Or.inl rfl)
  | begun _ ready =>
      obtain rfl := BacktestRunner.begin_eq_ok ready
      exact polled.quiet run tidy rfl (Or.inr y.runner.cancel_toPollLoops)
  | cancelled _ | dropped _ =>
      exact polled.quiet run tidy rfl (Or.inr y.runner.cancel_toPollLoops)
  | answered reply now _ =>
      cases reply with
      | error e => exact polled.quiet run tidy rfl (Or.inl rfl)
      | ok id => exact polled.taken run tidy id now
  | loop found fits => exact polled.loop run step found fits rfl rfl

/-! ## A loop at its end -/

/-- The loop at a place asks for nothing any more: it has returned, or it holds a report that ends
its job. -/
def Ended (i : Nat) (x : BacktestExecution) : Prop :=
  ∃ loop, x.runner.loops[i]? = some loop ∧
    (loop.stage = .returned ∨ ∃ report, loop.stage = .holding report ∧ report.isFinal = true)

/-- A loop that asks for nothing any more makes no call, and stays so. -/
theorem Ended.loop (ended : Ended i x) {next : LoopEvent BacktestProgress} {loop : BacktestLoop}
    (found : x.runner.loops[i]? = some loop) (fits : next.fits loop.stage = true) :
    Ended i { x with runner := (x.runner.advance i next).1 } ∧
      (x.runner.advance i next).2 = none := by
  obtain ⟨same, there, stage⟩ := ended
  rw [found] at there
  obtain rfl := Option.some.inj there
  rcases stage with returned | ⟨report, holding, final⟩
  · rw [returned] at fits
    cases next <;> cases fits
  · cases next with
    | serve now | ask | receive answer => simp [LoopEvent.fits, holding] at fits
    | publish =>
        refine ⟨⟨BacktestLoop.enter loop, ?_, Or.inl ?_⟩, rfl⟩
        · rw [BacktestRunner.advance_loops found (by simp [LoopEvent.fits, holding])]
          exact PollLoops.getElem?_update_self _ _ found
        · rw [BacktestLoop.enter_of_holding holding, BacktestJob.apply_isTerminal, final]
          rfl

/-- A loop that asks for nothing any more is not changed by what happens elsewhere, but may be
cancelled. -/
theorem Ended.elsewhere (ended : Ended i x) (step : Step x event y calls)
    (elsewhere : event.place? ≠ some i) : Ended i y := by
  obtain ⟨loop, found, stage⟩ := ended
  have inside : i < x.runner.loops.length := (List.getElem?_eq_some_iff.mp found).1
  -- Whatever is done to the loops, the stage of this one stays.
  obtain ⟨later, there, same⟩ := PollLoops.exists_getElem?_release _ found
  have stays : later.stage = loop.stage := by rcases same with rfl | rfl <;> rfl
  have cancelled : Ended i { x with runner := x.runner.cancel } := by
    refine ⟨later, ?_, by rw [stays]; exact stage⟩
    change x.runner.cancel.toPollLoops.loops[i]? = some later
    rw [BacktestRunner.cancel_toPollLoops, there]
  cases step with
  | refused _ _ | abandoned _ => exact ⟨loop, found, stage⟩
  | begun _ ready =>
      obtain rfl := BacktestRunner.begin_eq_ok ready
      exact cancelled
  | cancelled _ | dropped _ => exact cancelled
  | answered reply now _ =>
      cases reply with
      | error e => exact ⟨loop, found, stage⟩
      | ok id =>
          refine ⟨later, ?_, by rw [stays]; exact stage⟩
          rw [BacktestRunner.conclude, PollLoops.getElem?_start_lt _ _ inside, there]
  | @loop k next other asked fits =>
      have different : k ≠ i := fun same => elsewhere (congrArg some same)
      refine ⟨loop, ?_, stage⟩
      rw [BacktestRunner.advance_loops asked fits, PollLoops.getElem?_update_ne _ _ different]
      exact found

/-- **A loop whose job has come to an end never asks again**, whatever happens. -/
theorem Ended.askedBy_eq_nil (ended : Ended i x) (run : x.run? events = some y) :
    x.askedBy i events = [] := by
  induction events generalizing x with
  | nil => rfl
  | cons event events ih =>
      rw [run?, runFrom?_cons, Option.bind_eq_some_iff] at run
      obtain ⟨next, stepped, rest⟩ := run
      obtain ⟨⟨z, calls⟩, step, rfl⟩ := Option.map_eq_some_iff.mp stepped
      have first : x.run? [event] = some z := by simp [run?, runFrom?_cons, step]
      rw [← List.singleton_append, askedBy_append first, List.append_eq_nil_iff]
      by_cases own : event.place? = some i
      · cases event with
        | loop k next =>
            obtain rfl : k = i := Option.some.inj own
            rw [askedBy_loop step]
            cases step_of_step? step with
            | loop found fits =>
                obtain ⟨stays, silent⟩ := ended.loop found fits
                rw [silent]
                exact ⟨rfl, ih stays rest⟩
        | run _ | answered _ _ | abandon | cancel | drop => cases own
      · rw [askedBy_of_ne own]
        exact ⟨rfl, ih (ended.elsewhere (step_of_step? step) own) rest⟩

/-! ## Every list of replies -/

/-- A tick of the loop at a place, its request, the reply, and what it makes of the reply. -/
def round (i : Nat) (reply : Except Error BacktestProgress) : List BacktestEvent :=
  [.loop i (.serve 0), .loop i .ask, .loop i (.receive reply)] ++
    match reply with
    | .ok _ => [.loop i .publish]
    | .error _ => []

/-- What fits a loop can happen to it. -/
theorem exists_run_loop {loop : BacktestLoop} (found : x.runner.loops[i]? = some loop)
    (next : LoopEvent BacktestProgress) (fits : next.fits loop.stage = true) :
    ∃ y, x.run? [.loop i next] = some y ∧
      y.runner.loops[i]? = some (loop.advance BacktestLoop.enter next) := by
  refine ⟨{ x with runner := (x.runner.advance i next).1 }, ?_, ?_⟩
  · simp [run?, runFrom?_cons, step?, found, fits]
  · rw [BacktestRunner.advance_loops found fits]
    exact PollLoops.getElem?_update_self _ _ found

/-- A waiting loop gets through a round, and waits for the next tick unless its job has come to an
end. -/
theorem exists_run_round {loop : BacktestLoop} (found : x.runner.loops[i]? = some loop)
    (notCancelled : loop.cancelled = false) (waiting : loop.stage = .waiting)
    (reply : Except Error BacktestProgress) :
    ∃ y later, x.run? (round i reply) = some y ∧ y.runner.loops[i]? = some later ∧
      later.cancelled = false ∧ later.stage = if endsJob reply then .returned else .waiting := by
  obtain ⟨served, first, there⟩ := exists_run_loop found (.serve 0)
    (by simp [LoopEvent.fits, waiting])
  have ticked : (loop.serve 0).stage = .ticked := by simp [PollLoop.serve, waiting, notCancelled]
  obtain ⟨asked, second, there⟩ := exists_run_loop there .ask
    (by simp [PollLoop.advance, LoopEvent.fits, ticked])
  have asking : (loop.serve 0).ask.1.stage = .asking := by
    simp [PollLoop.ask, ticked, notCancelled]
  obtain ⟨received, third, there⟩ := exists_run_loop there (.receive reply)
    (by simp [PollLoop.advance, LoopEvent.fits, asking])
  have sofar := runFrom?_trans (runFrom?_trans first second) third
  cases reply with
  | error e =>
      refine ⟨received, _, sofar, there, by simp [PollLoop.advance, notCancelled], ?_⟩
      simp [PollLoop.advance, PollLoop.receive, asking, notCancelled, endsJob]
  | ok report =>
      have holding : ((loop.serve 0).ask.1.receive (.ok report)).stage = .holding report := by
        simp [PollLoop.receive, asking, notCancelled]
      obtain ⟨published, fourth, there⟩ := exists_run_loop there .publish
        (by simp [PollLoop.advance, LoopEvent.fits, holding])
      refine ⟨published, _, runFrom?_trans sofar fourth, there, ?_, ?_⟩
      · simp [PollLoop.advance, notCancelled]
      · simp only [PollLoop.advance]
        rw [BacktestLoop.enter_of_holding holding, BacktestJob.apply_isTerminal]
        rfl

theorem repliesTo_round (i : Nat) (reply : Except Error BacktestProgress) :
    repliesTo i (round i reply) = [reply] := by
  cases reply <;> simp [round, repliesTo, BacktestEvent.repliesTo, LoopEvent.replies]

/-- **A waiting loop takes any replies**, one after the other, up to one that ends its job. -/
theorem exists_run_of_replies {loop : BacktestLoop} (found : x.runner.loops[i]? = some loop)
    (notCancelled : loop.cancelled = false) (waiting : loop.stage = .waiting)
    (replies : List (Except Error BacktestProgress)) :
    ∃ events y later, x.run? events = some y ∧ repliesTo i events = heard replies ∧
      y.runner.loops[i]? = some later ∧ later.cancelled = false ∧
      (later.stage = .waiting ∨ later.stage = .returned) := by
  induction replies generalizing x loop with
  | nil => exact ⟨[], x, loop, rfl, rfl, found, notCancelled, Or.inl waiting⟩
  | cons reply rest ih =>
      obtain ⟨y, later, run, there, alive, stage⟩ :=
        exists_run_round found notCancelled waiting reply
      cases ends : endsJob reply with
      | true =>
          rw [ends] at stage
          refine ⟨round i reply, y, later, run, ?_, there, alive, Or.inr stage⟩
          simp [repliesTo_round, heard, ends]
      | false =>
          rw [ends] at stage
          obtain ⟨events, z, last, goesOn, replies, final⟩ := ih there alive stage
          refine ⟨round i reply ++ events, z, last, runFrom?_trans run goesOn, ?_, final⟩
          simp [repliesTo_round, heard, ends, replies]

theorem submissions_append (events later : List BacktestEvent) :
    submissions (events ++ later) = submissions events ++ submissions later :=
  List.flatMap_append

/-! ## The whole refinement -/

/-- **Polling a job is a fold over its reports.**  After every run, whatever else happened in it, of
a loop that was not cancelled: all replies to its questions but a report in its hand are settled,
and what it has published is the fold over the reports among them; it has asked once for each reply,
and once more while it waits for one, and for nothing but its own job; once a reply has ended the
job there was no request after it, and there never is one, whatever happens next; and any other loop
of a job with this id that had the same reports has published the same, wherever errors came between
them.  A loop that waits takes any list of replies up to the first that ends the job: it publishes
the fold over the whole list, and asks once for each reply that it takes. -/
theorem polling_refines_fold {interval : Nat} (run : (start interval).run? events = some x)
    {loop : BacktestLoop} (found : x.runner.loops[i]? = some loop)
    (notCancelled : loop.cancelled = false) :
    (submissions events)[i]? = some loop.subject.id ∧
    (∃ settled, repliesTo i events = settled ++ loop.inHand.map .ok ∧
      (start interval).publishedBy i events =
        (BacktestJob.submitted loop.subject.id).course (reportsOf settled)) ∧
    (start interval).askedBy i events =
      List.replicate ((repliesTo i events).length + if loop.stage = .asking then 1 else 0)
        (.backtestProgress loop.subject.id) ∧
    (∀ k reply, (repliesTo i events)[k]? = some reply → endsJob reply = true →
      ((start interval).askedBy i events).length = k + 1 ∧
      ∀ later y, x.run? later = some y → x.askedBy i later = []) ∧
    (∀ otherInterval otherEvents y j (other : BacktestLoop),
      (start otherInterval).run? otherEvents = some y → y.runner.loops[j]? = some other →
      other.cancelled = false → other.subject.id = loop.subject.id →
      loop.inHand = [] → other.inHand = [] →
      reportsOf (repliesTo j otherEvents) = reportsOf (repliesTo i events) →
      (start otherInterval).publishedBy j otherEvents = (start interval).publishedBy i events) ∧
    (loop.stage = .waiting → ∀ replies, ∃ later y, x.run? later = some y ∧
      repliesTo i (events ++ later) = repliesTo i events ++ heard replies ∧
      (start interval).publishedBy i (events ++ later) =
        (BacktestJob.submitted loop.subject.id).course
          (reportsOf (repliesTo i events ++ replies)) ∧
      (start interval).askedBy i (events ++ later) =
        List.replicate (repliesTo i events ++ heard replies).length
          (.backtestProgress loop.subject.id)) := by
  have polls := (polled_of_run? run).polls i loop found notCancelled
  have named := (traced_of_run? run).follow.getElem?_names found
  refine ⟨named, ?_, polls.asked, ?_, ?_, ?_⟩
  · obtain ⟨settled, replies, -, published, -⟩ := polls.settled
    exact ⟨settled, replies, published⟩
  · intro k reply there ends
    obtain ⟨position, stage⟩ := polls.of_endsJob there ends
    have ended : Ended i x := ⟨loop, found, stage⟩
    exact ⟨position, fun later y goesOn => ended.askedBy_eq_nil goesOn⟩
  · intro otherInterval otherEvents y j other otherRun otherFound alive sameId free otherFree same
    rw [((polled_of_run? otherRun).polls j other otherFound alive).published_of_free otherFree,
      polls.published_of_free free, sameId, same]
  · intro waiting replies
    obtain ⟨later, y, last, goesOn, taken, there, alive, stage⟩ :=
      exists_run_of_replies found notCancelled waiting replies
    have all := runFrom?_trans run goesOn
    have pollsOn := (polled_of_run? all).polls i last there alive
    have sameId : last.subject.id = loop.subject.id := by
      have namedLast := (traced_of_run? all).follow.getElem?_names there
      rw [submissions_append, List.getElem?_append_left (List.getElem?_eq_some_iff.mp named).1,
        named] at namedLast
      exact (Option.some.inj namedLast).symm
    have quiet : ∀ reply ∈ repliesTo i events, endsJob reply = false := by
      intro reply member
      obtain ⟨k, inside⟩ := List.mem_iff_getElem?.mp member
      by_contra ends
      obtain ⟨-, returned | ⟨report, holding, -⟩⟩ :=
        polls.of_endsJob inside (by simpa using ends)
      · cases waiting.symm.trans returned
      · cases waiting.symm.trans holding
    have free : last.inHand = [] := by
      rcases stage with stage | stage <;> simp [PollLoop.inHand, stage]
    have notAsking : last.stage ≠ .asking := by rcases stage with stage | stage <;> simp [stage]
    rw [repliesTo_append, taken] at pollsOn
    refine ⟨later, y, goesOn, by rw [repliesTo_append, taken], ?_, ?_⟩
    · rw [pollsOn.published_of_free free, sameId, ← heard_append quiet, BacktestJob.course_heard]
    · rw [pollsOn.asked, sameId, if_neg notAsking, Nat.add_zero]

/-- A backtest is submitted; the first question for its progress fails, and the second one brings a
report. -/
def afterFailure (id status : String) : List BacktestEvent :=
  [.run plainRequest, .answered (.ok id) 0] ++ round 0 (.error (.remote 503 none)) ++
    round 0 (.ok (plainReport status))

/-- The failure leaves no trace in what is published. -/
theorem polling_refines_fold_afterFailure :
    ∃ x loop, (start 1000).run? (afterFailure "job-1" "running") = some x ∧
      x.runner.loops[0]? = some loop ∧ loop.cancelled = false ∧ loop.stage = .waiting ∧
      repliesTo 0 (afterFailure "job-1" "running") =
        [.error (.remote 503 none), .ok (plainReport "running")] ∧
      ∃ settled, repliesTo 0 (afterFailure "job-1" "running") = settled ++ loop.inHand.map .ok ∧
        (start 1000).publishedBy 0 (afterFailure "job-1" "running") =
          (BacktestJob.submitted loop.subject.id).course (reportsOf settled) := by
  obtain ⟨x, loop, run, found, notCancelled, waiting⟩ :
      ∃ x loop, (start 1000).run? (afterFailure "job-1" "running") = some x ∧
        x.runner.loops[0]? = some loop ∧ loop.cancelled = false ∧ loop.stage = .waiting :=
    ⟨_, _, rfl, rfl, rfl, rfl⟩
  exact ⟨x, loop, run, found, notCancelled, waiting, rfl,
    (polling_refines_fold run found notCancelled).2.1⟩

end BacktestExecution

end StrategyDesk
