import StrategyDesk.Proofs.Monitor.Stops

/-!
# What the monitors show

The status monitor shows the last status that it read, and the log monitor the last lines, with the
source that they were asked for. The source may be switched at any time, also while a read is under
way, and loops come and go.

## Main Definitions

* `StatusBoard.display`, `LogBoard.display` — what the monitors ask for and show
* `LogRequest` — what a read of a log asks for

## Main Statements

* `LogBoard.asks_eq` — a read asks for the source of the moment in which it begins
* `LogBoard.source_of_switch` — what is asked for after a switch
* `Monitor.shows_last_success` — the monitors show the last success, as it was asked for, and when
  what they show stays after a stop
* `Monitor.stopped_loop_shows` — a stop that overtakes an answer does not keep it from being shown

## Design Notes

A loop looks at its mark when an answer reaches it, and shows the answer later, without another
look. What is shown has no time of its own, and the loops of a monitor are the only ones that write
it; the reads that others make are left out.
-/

namespace StrategyDesk

theorem eq_ok_of_toOption {ε α : Type} {answer : Except ε α} {a : α}
    (succeeds : answer.toOption = some a) : answer = .ok a := by
  cases answer with
  | error _ => cases succeeds
  | ok _ => exact congrArg Except.ok (Option.some.inj succeeds)

/-! ## The status -/

namespace StatusBoard

/-- A turn asks for the status exactly when it begins a read. -/
theorem look_asks_iff (b : StatusBoard) (i now : Nat) : (b.look i now).2 = true ↔
    ∃ l, (monitor.loops b)[i]? = some l ∧ l.begins (.look now) = true := by
  unfold look
  cases found : b.loops[i]? with
  | none => simp [Monitor.loops, monitor, found]
  | some loop =>
      simp [Monitor.loops, monitor, found, RefreshLoop.begins, RefreshLoop.isBusy, bne,
        ReadLoop.update]

theorem look_status (b : StatusBoard) (i now : Nat) : (b.look i now).1.status = b.status := by
  unfold look
  cases b.loops[i]? <;> rfl

theorem publish_status {b : StatusBoard} {i : Nat} {answer : Except Error ServiceStatus}
    (held : monitor.inHand b i = some answer) :
    (b.publish i).status = (answer.toOption.map some).getD b.status := by
  have inHand : b.loops[i]?.bind ReadLoop.inHand = some answer := held
  cases answer <;> simp [publish, inHand, take, Except.toOption]

theorem loops_length_publish (b : StatusBoard) (i : Nat) :
    (b.publish i).loops.length = b.loops.length := by
  unfold publish
  split <;> simp

/-- The status monitor asks for the status and shows it. -/
def display : Display StatusBoard (Except Error ServiceStatus) (Except Error ServiceStatus) Unit
    (Option ServiceStatus) where
  toMonitor := monitor
  shown := status
  asks b i now := if (b.look i now).2 then some () else none
  asked b := List.replicate b.loops.length ()
  shows _ answer := answer.toOption.map some
  Leaves _ := False
  asks_iff b i now := by
    rw [Option.isSome_ite]
    exact b.look_asks_iff i now
  length_asked b := by simp [Monitor.loops, monitor]
  asked_watch b period now := ⟨(), by simp [monitor, watch, stop, List.replicate_succ']⟩
  asked_stop b := by simp [monitor, stop]
  asked_fire b i := by simp [monitor, fire]
  asked_look b i now := by
    have length : (b.look i now).1.loops.length = b.loops.length := by
      rw [loops_look, List.length_modify]
    cases (b.look i now).2 <;> simp [monitor, length]
  asked_receive b i answer := by simp [monitor, receive]
  asked_publish b i := congrArg (List.replicate · ()) (b.loops_length_publish i)
  asked_aside b what := by cases what <;> rfl
  shown_watch b period now := rfl
  shown_stop b := rfl
  shown_fire b i := rfl
  shown_look := look_status
  shown_receive b i answer := rfl
  shown_publish b i answer request held _ := publish_status held
  shown_aside b what leaves := leaves.elim

/-- The last success is the last status that was read. -/
theorem getLast?_successes (answers : List (Reading Unit × Except Error ServiceStatus)) :
    (display.successes answers).getLast?.getD none =
      (answers.filterMap (·.2.toOption)).getLast? := by
  have same : display.successes answers = (answers.filterMap (·.2.toOption)).map some :=
    List.map_filterMap.symm
  rw [same, List.getLast?_map]
  cases (answers.filterMap (·.2.toOption)).getLast? <;> rfl

/-- When the status stays after the loops are told to stop. -/
theorem status_stays_iff (x : MonitorExecution StatusBoard) :
    (∀ later y, (∀ period, .watch period ∉ later) → (∀ what, .aside what ∉ later) →
      monitor.run? x (.stop :: later) = some y → y.board.status = x.board.status) ↔
      ∀ i status, monitor.inHand x.board i = some (.ok status) → x.board.status = some status := by
  refine (display.shown_stays_iff x).trans ⟨fun nothing i status held => ?_, ?_⟩
  · obtain ⟨r, there, -⟩ := Option.bind_eq_some_iff.mp held
    have inside : i < x.board.loops.length := (List.getElem?_eq_some_iff.mp there).1
    exact nothing i _ () held (List.getElem?_replicate_of_lt inside) _ rfl
  · intro same i answer request held _ shown success
    obtain ⟨status, succeeds, rfl⟩ := Option.map_eq_some_iff.mp success
    exact same i status (eq_ok_of_toOption succeeds ▸ held)

end StatusBoard

/-! ## The tail of a log -/

/-- What a read of a log asks for. -/
structure LogRequest where
  source : LogSource
  lines : Nat
deriving DecidableEq, Repr

namespace LogBoard

/-- What a read that begins now asks for. -/
def request (b : LogBoard) : LogRequest := ⟨b.source, b.maxLines⟩

/-- The request that a loop's turn puts. -/
def asks (b : LogBoard) (i now : Nat) : Option LogRequest :=
  (b.look i now).2.map (⟨·, b.maxLines⟩)

/-- What each loop remembers of its latest request. -/
def asked (b : LogBoard) : List LogRequest := b.loops.map fun l => ⟨l.asked, b.maxLines⟩

/-- **A read asks for the source of the moment** in which it begins. -/
theorem asks_eq (b : LogBoard) (i now : Nat) : b.asks i now =
    if ∃ r, b.reads[i]? = some r ∧ r.refresh.begins (.look now) = true then some b.request
    else none := by
  unfold asks look
  cases found : b.loops[i]? with
  | none => simp [reads, found]
  | some loop =>
      simp only [getElem?_reads found, Option.some.injEq, exists_eq_left']
      simp [RefreshLoop.begins, RefreshLoop.isBusy, LogLoop.update, ReadLoop.update]
      split <;> simp [*, request]

/-- A change of the loops' reading alone. -/
theorem asked_modify {b after : LogBoard} {i : Nat} {f : LogLoop → LogLoop}
    (changed : after.loops = b.loops.modify i f) (lines : after.maxLines = b.maxLines)
    (same : ∀ l, (f l).asked = l.asked) : after.asked = b.asked := by
  rw [asked, changed, lines, asked]
  refine List.ext_getElem? fun k => ?_
  rw [List.getElem?_map, List.getElem?_map, List.getElem?_modify]
  cases b.loops[k]? with
  | none => rfl
  | some l => by_cases itself : i = k <;> simp [itself, same]

/-- What is in the hand of a loop. -/
theorem exists_of_inHand {b : LogBoard} {i : Nat} {answer : Except Error (List LogLine)}
    (held : b.reads[i]?.bind ReadLoop.inHand = some answer) :
    ∃ loop, b.loops[i]? = some loop ∧ loop.inHand = some answer := by
  obtain ⟨r, found, has⟩ := Option.bind_eq_some_iff.mp held
  rw [reads, List.getElem?_map, Option.map_eq_some_iff] at found
  obtain ⟨loop, there, rfl⟩ := found
  exact ⟨loop, there, has⟩

theorem asked_look (b : LogBoard) (i now : Nat) :
    (b.look i now).1.asked = (b.asks i now).elim b.asked (b.asked.set i) := by
  unfold asks look
  cases found : b.loops[i]? with
  | none => rfl
  | some loop =>
      dsimp only
      split
      · simp [asked]
      · exact asked_modify (modify_of_getElem? found (·.update (·.look now))).symm rfl fun _ => rfl

theorem take_asked (b : LogBoard) (source : LogSource) (answer : Except Error (List LogLine)) :
    (b.take source answer).asked = b.asked := by
  cases answer <;> rfl

/-- A loop that shows an answer changes the tail, and gives the answer away. -/
theorem publish_eq {b : LogBoard} {i : Nat} {loop : LogLoop} {answer : Except Error (List LogLine)}
    (found : b.loops[i]? = some loop) (held : loop.inHand = some answer) :
    b.publish i = { b.take loop.asked answer with
      loops := b.loops.modify i fun l => { l with toReadLoop := l.toReadLoop.finish } } := by
  simp [publish, found, held]

theorem publish_of_empty {b : LogBoard} {i : Nat}
    (empty : b.reads[i]?.bind ReadLoop.inHand = none) : b.publish i = b := by
  unfold publish
  cases found : b.loops[i]? with
  | none => rfl
  | some loop =>
      have nothing : loop.inHand = none := by simpa [getElem?_reads found] using empty
      simp [nothing]

theorem publish_asked (b : LogBoard) (i : Nat) : (b.publish i).asked = b.asked := by
  cases held : b.reads[i]?.bind ReadLoop.inHand with
  | none => rw [publish_of_empty held]
  | some answer =>
      obtain ⟨loop, found, has⟩ := exists_of_inHand held
      rw [publish_eq found has]
      exact asked_modify (b := b) rfl (by cases answer <;> rfl) fun _ => rfl

theorem look_tail (b : LogBoard) (i now : Nat) : (b.look i now).1.tail = b.tail := by
  unfold look
  cases b.loops[i]? with
  | none => rfl
  | some loop =>
      dsimp only
      split <;> rfl

theorem publish_tail {b : LogBoard} {i : Nat} {answer : Except Error (List LogLine)}
    {request : LogRequest} (held : b.reads[i]?.bind ReadLoop.inHand = some answer)
    (remembered : b.asked[i]? = some request) :
    (b.publish i).tail = (answer.toOption.map (⟨request.source, ·, true⟩)).getD b.tail := by
  obtain ⟨loop, found, has⟩ := exists_of_inHand held
  simp only [asked, List.getElem?_map, found, Option.map_some, Option.some.injEq] at remembered
  rw [publish_eq found has, ← remembered]
  cases answer <;> simp [take, Except.toOption]

/-- The log monitor, which shows the lines that were read and the source they were asked for. -/
def display (maxLines : Nat) : Display LogBoard (Except Error (List LogLine)) LogAside LogRequest
    LogTail where
  toMonitor := monitor maxLines
  shown := tail
  asks := asks
  asked := asked
  shows request answer := answer.toOption.map (⟨request.source, ·, true⟩)
  Leaves
    | .setSource _ => True
    | .read .. => False
  asks_iff b i now := by
    rw [asks_eq, Option.isSome_ite]
    simp [Monitor.loops, monitor]
  length_asked b := by simp [asked, monitor, Monitor.loops, reads]
  asked_watch b period now :=
    ⟨b.request, by simp [asked, monitor, watch, stop, request, LogLoop.update]⟩
  asked_stop b := by simp [asked, monitor, stop, LogLoop.update]
  asked_fire _ _ := asked_modify rfl rfl fun _ => rfl
  asked_look := asked_look
  asked_receive _ _ _ := asked_modify rfl rfl fun _ => rfl
  asked_publish := publish_asked
  asked_aside b what := by
    cases what with
    | setSource source => rfl
    | read source answer => exact take_asked b source answer
  shown_watch b period now := rfl
  shown_stop b := rfl
  shown_fire b i := rfl
  shown_look := look_tail
  shown_receive b i answer := rfl
  shown_publish b i answer request held remembered := publish_tail held remembered
  shown_aside b what leaves := by
    cases what with
    | setSource source => rfl
    | read source answer => exact leaves.elim

/-- When the tail stays after the loops are told to stop. -/
theorem tail_stays_iff (maxLines : Nat) (x : MonitorExecution LogBoard) :
    (∀ later y, (∀ period, .watch period ∉ later) →
      (∀ source answer, .aside (.read source answer) ∉ later) →
      (monitor maxLines).run? x (.stop :: later) = some y → y.board.tail = x.board.tail) ↔
      ∀ (i : Nat) loop lines, x.board.loops[i]? = some loop → loop.inHand = some (.ok lines) →
        x.board.tail = ⟨loop.asked, lines, true⟩ := by
  have leaves (later : List (MonitorEvent (Except Error (List LogLine)) LogAside)) :
      (∀ what, .aside what ∈ later → (display maxLines).Leaves what) ↔
        ∀ source answer, .aside (.read source answer) ∉ later := by
    refine ⟨fun leaves source answer mem => leaves _ mem, fun alone what mem => ?_⟩
    cases what with
    | setSource source => trivial
    | read source answer => exact alone source answer mem
  simp only [← leaves]
  refine ((display maxLines).shown_stays_iff x).trans ⟨fun nothing i loop lines found has => ?_, ?_⟩
  · have held : (monitor maxLines).inHand x.board i = some (.ok lines) := by
      simp [Monitor.inHand, monitor, getElem?_reads found, has]
    exact nothing i _ ⟨loop.asked, x.board.maxLines⟩ held (by simp [display, asked, found]) _ rfl
  · intro same i answer request held remembered shown success
    obtain ⟨loop, found, has⟩ := exists_of_inHand held
    obtain ⟨lines, succeeds, rfl⟩ := Option.map_eq_some_iff.mp success
    obtain rfl := eq_ok_of_toOption succeeds
    have asked : request.source = loop.asked := by
      simp only [display, asked, List.getElem?_map, found, Option.map_some,
        Option.some.injEq] at remembered
      rw [← remembered]
    rw [asked]
    exact same i loop lines found has

/-- Only a switch changes what is asked for. -/
theorem request_step {maxLines : Nat} {x y : MonitorExecution LogBoard}
    {event : MonitorEvent (Except Error (List LogLine)) LogAside}
    (step : (monitor maxLines).step? x event = some y) :
    y.board.maxLines = x.board.maxLines ∧
      ((∀ source, event ≠ .aside (.setSource source)) → y.board.source = x.board.source) := by
  cases event with
  | watch _ | stop | fire _ | fireAfter _ _ | pass _ =>
      obtain rfl := Option.some.inj step
      exact ⟨rfl, fun _ => rfl⟩
  | expire k =>
      obtain ⟨due, i, -, -, rfl⟩ := Monitor.step?_expire step
      exact ⟨rfl, fun _ => rfl⟩
  | look i =>
      obtain ⟨-, rfl⟩ := Monitor.step?_look step
      have same : (x.board.look i x.now).1.request = x.board.request := by
        unfold look
        cases x.board.loops[i]? with
        | none => rfl
        | some loop =>
            dsimp only
            split <;> rfl
      exact ⟨congrArg LogRequest.lines same, fun _ => congrArg LogRequest.source same⟩
  | reply i answer =>
      obtain ⟨-, rfl⟩ := Monitor.step?_reply step
      exact ⟨rfl, fun _ => rfl⟩
  | publish i =>
      obtain ⟨⟨answer, held⟩, rfl⟩ := Monitor.step?_publish step
      obtain ⟨loop, found, has⟩ := exists_of_inHand held
      have same : (x.board.publish i).request = x.board.request := by
        rw [publish_eq found has]
        cases answer <;> rfl
      exact ⟨congrArg LogRequest.lines same, fun _ => congrArg LogRequest.source same⟩
  | aside what =>
      obtain rfl := Option.some.inj step
      cases what with
      | setSource source => exact ⟨rfl, fun other => absurd rfl (other source)⟩
      | read source answer => cases answer <;> exact ⟨rfl, fun _ => rfl⟩

theorem eq_request_of_asks {b : LogBoard} {i now : Nat} {request : LogRequest}
    (asks : b.asks i now = some request) : request = b.request := by
  rw [asks_eq] at asks
  split at asks
  · exact (Option.some.inj asks).symm
  · cases asks

section Runs

variable {maxLines : Nat} {x : MonitorExecution LogBoard} {source : LogSource}
variable {events before later : List (MonitorEvent (Except Error (List LogLine)) LogAside)}

/-- All reads ask for as many lines. -/
theorem lines_of_run? (run : (monitor maxLines).run? (monitor maxLines).start events = some x) :
    ((display maxLines).journal events).All (·.request.lines = maxLines) := by
  refine Display.all_of_run? (d := display maxLines) (·.maxLines = maxLines) run rfl ?_ ?_ ?_
  · intro event _ x y step ofKind
    exact (request_step step).1.trans ofKind
  · intro b i now request number ofKind asks
    rw [eq_request_of_asks asks]
    exact ofKind
  · exact ⟨nofun, nofun⟩

/-- Reads that begin after a switch ask for the source that was switched to. -/
theorem source_of_switch
    (run : (monitor maxLines).run? (monitor maxLines).start
      (before ++ .aside (.setSource source) :: later) = some x)
    (leaves : ∀ what, .aside what ∈ before → (display maxLines).Leaves what)
    (unswitched : ∀ other, .aside (.setSource other) ∉ later) :
    ((display maxLines).journal (before ++ .aside (.setSource source) :: later)).All
      fun r => ((display maxLines).journal before).begun ≤ r.number →
        r.request.source = source := by
  obtain ⟨z, w, earlier, switch, goesOn, journal⟩ :=
    Display.journal_split (d := display maxLines) run
  have keeps := Display.keeps_of_run? earlier leaves
  rw [journal]
  refine Display.all_of_run? (d := display maxLines) (·.source = source) goesOn ?_ ?_ ?_ ?_
  · obtain rfl := Option.some.inj switch
    rfl
  · intro event mem x y step ofKind
    refine ((request_step step).2 fun other same => ?_).trans ofKind
    exact unswitched other (same ▸ mem)
  · intro b i now request number ofKind asks _
    rw [eq_request_of_asks asks]
    exact ofKind
  · -- No read that was known before the switch is one of those that begin after it.
    refine ⟨fun r mem late => ?_, fun a mem late => ?_⟩
    · obtain ⟨i, latest⟩ := List.getElem?_of_mem mem
      exact absurd late (Nat.not_le.mpr (keeps.counted i r latest).1)
    · exact absurd late (Nat.not_le.mpr (keeps.answered a mem).1)

end Runs

end LogBoard

/-! ## The last success -/

section Runs

variable {x : MonitorExecution StatusBoard} {y : MonitorExecution LogBoard} {maxLines : Nat}
variable {statusEvents : List (MonitorEvent (Except Error ServiceStatus)
  (Except Error ServiceStatus))}
variable {logEvents : List (MonitorEvent (Except Error (List LogLine)) LogAside)}

/-- **The monitors show the last success, as it was asked for.**  After every run of each in which
nobody else reads: the status is the last one that came while its loop was running and has been
shown, and the tail is the last such lines, under the source that the very request asked for, which
asked for as many lines as the monitor does.  What came while its loop was running is in the hand of
the loop until it is shown.  Of two answers the one whose read began first is shown first, unless it
is that of a loop that another was started in place of; with a single loop all are in order.  An
arrival changes nothing, and showing a failure neither.  When loops show in turn, and a read that
began after a switch has succeeded, the tail is of the source switched to until there is another
switch.  After the loops are told to stop, what is shown stays until a loop is started, whatever
else happens, exactly if each success in the hand of a loop is what is shown already. -/
theorem Monitor.shows_last_success
    (statusRun : StatusBoard.monitor.run? StatusBoard.monitor.start statusEvents = some x)
    (statusAlone : ∀ what, .aside what ∉ statusEvents)
    (logRun : (LogBoard.monitor maxLines).run? (LogBoard.monitor maxLines).start logEvents = some y)
    (logAlone : ∀ source answer, .aside (.read source answer) ∉ logEvents) :
    let statuses := StatusBoard.display.journal statusEvents
    let tails := (LogBoard.display maxLines).journal logEvents
    (x.board.status = (statuses.answers.filterMap (·.2.toOption)).getLast? ∧
      (∀ i, StatusBoard.monitor.inHand x.board i = statuses.taken i) ∧
      (statuses.answers.Pairwise fun a b => a.1.number < b.1.number ↔ a.1.loop ≤ b.1.loop) ∧
      (x.board.loops.length ≤ 1 → statuses.InTurn) ∧
      (∀ i answer z, StatusBoard.monitor.step? x (.reply i answer) = some z →
        z.board.status = x.board.status) ∧
      (∀ i error z, StatusBoard.monitor.inHand x.board i = some (.error error) →
        StatusBoard.monitor.step? x (.publish i) = some z → z.board.status = x.board.status) ∧
      ((∀ later z, (∀ period, .watch period ∉ later) → (∀ what, .aside what ∉ later) →
        StatusBoard.monitor.run? x (.stop :: later) = some z →
          z.board.status = x.board.status) ↔
        ∀ i status, StatusBoard.monitor.inHand x.board i = some (.ok status) →
          x.board.status = some status)) ∧
    y.board.tail = (tails.answers.filterMap fun a => a.2.toOption.map fun lines =>
      (⟨a.1.request.source, lines, true⟩ : LogTail)).getLast?.getD ⟨.pipeline, [], false⟩ ∧
    (∀ a ∈ tails.answers, a.1.request.lines = maxLines) ∧
    (∀ i, (LogBoard.monitor maxLines).inHand y.board i = tails.taken i) ∧
    (tails.answers.Pairwise fun a b => a.1.number < b.1.number ↔ a.1.loop ≤ b.1.loop) ∧
    (y.board.loops.length ≤ 1 → tails.InTurn) ∧
    (∀ i answer z, (LogBoard.monitor maxLines).step? y (.reply i answer) = some z →
      z.board.tail = y.board.tail) ∧
    (∀ i error z, (LogBoard.monitor maxLines).inHand y.board i = some (.error error) →
      (LogBoard.monitor maxLines).step? y (.publish i) = some z → z.board.tail = y.board.tail) ∧
    (∀ before source later, logEvents = before ++ .aside (.setSource source) :: later →
      (∀ other, .aside (.setSource other) ∉ later) → tails.InTurn →
      (∃ a ∈ tails.answers, ((LogBoard.display maxLines).journal before).begun ≤ a.1.number ∧
        a.2.toOption.isSome = true) →
      y.board.tail.source = source) ∧
    ((∀ later z, (∀ period, .watch period ∉ later) →
      (∀ source answer, .aside (.read source answer) ∉ later) →
      (LogBoard.monitor maxLines).run? y (.stop :: later) = some z →
        z.board.tail = y.board.tail) ↔
      ∀ (i : Nat) loop lines, y.board.loops[i]? = some loop →
        loop.inHand = some (.ok lines) → y.board.tail = ⟨loop.asked, lines, true⟩) := by
  intro statuses tails
  constructor
  · have keeps : StatusBoard.display.Keeps x (StatusBoard.display.journal statusEvents) :=
      Display.keeps_of_run? statusRun fun what mem => statusAlone what mem
    refine ⟨?_, keeps.taken, keeps.ordered, ?_, ?_, ?_, ?_⟩
    · rw [← StatusBoard.getLast?_successes]
      exact keeps.shown
    · intro single
      exact keeps.inTurn (by simpa [Monitor.loops, StatusBoard.display, StatusBoard.monitor])
    · intro i answer z step
      exact Display.shown_of_reply (d := StatusBoard.display) step
    · intro i error z held step
      exact keeps.shown_of_failure held step fun _ => rfl
    · exact StatusBoard.status_stays_iff x
  · have leaves : ∀ what, .aside what ∈ logEvents → (LogBoard.display maxLines).Leaves what := by
      intro what mem
      cases what with
      | setSource source => trivial
      | read source answer => exact logAlone source answer mem
    have keeps : (LogBoard.display maxLines).Keeps y
        ((LogBoard.display maxLines).journal logEvents) := Display.keeps_of_run? logRun leaves
    refine ⟨keeps.shown, (LogBoard.lines_of_run? logRun).answers, keeps.taken, keeps.ordered, ?_,
      ?_, ?_, ?_, ?_⟩
    · intro single
      exact keeps.inTurn (by
        simpa [Monitor.loops, LogBoard.display, LogBoard.monitor, LogBoard.reads])
    · intro i answer z step
      exact Display.shown_of_reply (d := LogBoard.display maxLines) step
    · intro i error z held step
      exact keeps.shown_of_failure held step fun _ => rfl
    · rintro before source later rfl unswitched inTurn ⟨a, mem, late, succeeds⟩
      obtain ⟨b, there, after, shows⟩ := keeps.shown_of_success inTurn mem (by
        simpa [LogBoard.display] using succeeds)
      have asked := (LogBoard.source_of_switch logRun
        (fun what mem => leaves what (List.mem_append_left _ mem)) unswitched).answers b there
        (Nat.le_trans late after)
      obtain ⟨lines, -, tail⟩ := Option.map_eq_some_iff.mp shows
      exact (congrArg LogTail.source tail).symm.trans asked
    · exact LogBoard.tail_stays_iff maxLines y

end Runs

/-- The source is switched while a read of the pipeline's log is under way. -/
def switched : List (MonitorEvent (Except Error (List LogLine)) LogAside) :=
  [.watch 5000, .look 0, .aside (.setSource .server), .fire 0,
    .reply 0 (.ok [⟨"tick", .info⟩]), .publish 0]

/-- The next read fails, and the one after it succeeds; the last is answered too late. -/
def readAgain : List (MonitorEvent (Except Error (List LogLine)) LogAside) :=
  [.look 0, .reply 0 (.error .unreachable), .publish 0, .fire 0, .look 0,
    .reply 0 (.ok [⟨"listening", .info⟩]), .publish 0, .fire 0, .look 0, .stop, .reply 0 (.ok [])]

/-- What the engine reports while nothing runs. -/
def allDown : ServiceStatus := ⟨.down, false, none, .down, .none, none⟩

/-- A status is read, then a read fails, and one is answered after the loop was told to stop. -/
def readStatus : List (MonitorEvent (Except Error ServiceStatus) (Except Error ServiceStatus)) :=
  [.watch 1000, .look 0, .reply 0 (.ok allDown), .publish 0, .fire 0, .look 0,
    .reply 0 (.error .unreachable), .publish 0, .fire 0, .look 0, .stop,
    .reply 0 (.ok { allDown with authenticated := true })]

/-- The lines that come after the switch are shown under the source that they were asked for, until
a later read succeeds; what comes after the end is not shown. -/
theorem Monitor.shows_last_success_switched :
    ∃ x y z,
      (LogBoard.monitor 50).run? (LogBoard.monitor 50).start switched = some x ∧
      x.board.source = .server ∧ x.board.tail = ⟨.pipeline, [⟨"tick", .info⟩], true⟩ ∧
      (LogBoard.monitor 50).run? (LogBoard.monitor 50).start (switched ++ readAgain) = some y ∧
      y.board.tail.source = .server ∧
      StatusBoard.monitor.run? StatusBoard.monitor.start readStatus = some z ∧
      z.board.status = some allDown := by
  obtain ⟨x, early, ahead⟩ : ∃ x,
      (LogBoard.monitor 50).run? (LogBoard.monitor 50).start switched = some x ∧
        x.board.source = .server := ⟨_, rfl, rfl⟩
  obtain ⟨y, late, single⟩ : ∃ y, (LogBoard.monitor 50).run? (LogBoard.monitor 50).start
      (switched ++ readAgain) = some y ∧ y.board.loops.length ≤ 1 := ⟨_, rfl, Nat.le_refl 1⟩
  obtain ⟨z, read⟩ : ∃ z,
      StatusBoard.monitor.run? StatusBoard.monitor.start readStatus = some z := ⟨_, rfl⟩
  have readsAlone : ∀ what, .aside what ∉ readStatus := by simp [readStatus]
  obtain ⟨⟨status, -⟩, pipeline, -⟩ :=
    Monitor.shows_last_success read readsAlone early (by simp [switched])
  obtain ⟨-, -, -, -, -, inTurn, -, -, switch, -⟩ :=
    Monitor.shows_last_success read readsAlone late (by simp [switched, readAgain])
  refine ⟨x, y, z, early, ahead, pipeline.trans rfl, late, ?_, read, status.trans rfl⟩
  -- The third read succeeds, and began after the switch.
  have third : ((LogBoard.display 50).journal (switched ++ readAgain)).answers[2]? =
      some (⟨2, 0, ⟨.server, 50⟩⟩, .ok [⟨"listening", .info⟩]) := rfl
  have after : ((LogBoard.display 50).journal [.watch 5000, .look 0]).begun ≤ 2 := by decide
  exact switch [.watch 5000, .look 0] .server _ rfl (by simp [readAgain]) (inTurn single)
    ⟨_, List.mem_of_getElem? third, after, rfl⟩

/-- **A loop that was told to stop shows what it has in its hand**: both monitors change what they
show after they were told to stop, and no loop was started since. -/
theorem Monitor.stopped_loop_shows :
    (∃ x y, StatusBoard.monitor.run? StatusBoard.monitor.start
        [.watch 1000, .look 0, .reply 0 (.ok allDown), .stop] = some x ∧
      x.board.status = none ∧
      StatusBoard.monitor.run? x [.publish 0] = some y ∧ y.board.status = some allDown) ∧
    ∃ x y, (LogBoard.monitor 50).run? (LogBoard.monitor 50).start
        [.watch 5000, .look 0, .reply 0 (.ok [⟨"tick", .info⟩]), .stop] = some x ∧
      x.board.tail = ⟨.pipeline, [], false⟩ ∧
      (LogBoard.monitor 50).run? x [.publish 0] = some y ∧
      y.board.tail = ⟨.pipeline, [⟨"tick", .info⟩], true⟩ :=
  ⟨⟨_, _, rfl, rfl, rfl, rfl⟩, ⟨_, _, rfl, rfl, rfl, rfl⟩⟩

end StrategyDesk
