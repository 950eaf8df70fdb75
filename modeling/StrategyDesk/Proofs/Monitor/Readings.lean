import Mathlib.Data.List.Induction
import StrategyDesk.Proofs.Monitor.Hands

/-!
# What a monitor has read

A monitor shows what it has read. Its journal is kept by someone who sees what goes over the wire,
what the monitor is told and when it shows something, but not how the monitor remembers any of it:
the requests in the order in which they are sent, the answers that come while the loop that asked
still runs and are shown by it, and for each answer the very request that it answers.

## Main Definitions

* `Display` — a monitor, what it asks for and what it shows
* `Reading`, `Journal`, `Display.journal` — what was read in a run
* `Journal.InTurn` — no loop shows an answer after one that was started in its place
* `Display.Alike` — the loops are as they were, but that some may have come to the end of a read
* `Display.Keeps` — the invariant that ties the board to the journal

## Main Statements

* `Display.keeps_of_run?` — the board agrees with the journal after every run
* `Display.Keeps.shown` — what is shown is the last success
* `Display.Keeps.ordered` — which answers are shown in the order of their reads
* `Display.all_of_run?` — what holds of all reads that are asked for
-/

namespace StrategyDesk

/-- A monitor that shows what its loops read. -/
structure Display (Board Answer Aside Request Shown : Type) extends
    Monitor Board Answer Aside where
  shown : Board → Shown
  /-- What the engine is asked for when a loop gets its turn. -/
  asks : Board → (i now : Nat) → Option Request
  /-- What each loop remembers that its latest read asks for. -/
  asked : Board → List Request
  /-- What an answer has shown, if it is a success. -/
  shows : Request → Answer → Option Shown
  /-- What is done aside from the loops leaves alone what is shown. -/
  Leaves : Aside → Prop
  asks_iff : ∀ b i now, (asks b i now).isSome = true ↔
    ∃ l, (toMonitor.loops b)[i]? = some l ∧ l.begins (.look now) = true
  length_asked : ∀ b, (asked b).length = (toMonitor.loops b).length
  asked_watch : ∀ b period now, ∃ any, asked (watch b period now) = asked b ++ [any]
  asked_stop : ∀ b, asked (stop b) = asked b
  asked_fire : ∀ b i, asked (fire b i) = asked b
  asked_look : ∀ b i now, asked (look b i now) = (asks b i now).elim (asked b) ((asked b).set i)
  asked_receive : ∀ b i answer, asked (receive b i answer) = asked b
  asked_publish : ∀ b i, asked (publish b i) = asked b
  asked_aside : ∀ b what, asked (aside b what) = asked b
  shown_watch : ∀ b period now, shown (watch b period now) = shown b
  shown_stop : ∀ b, shown (stop b) = shown b
  shown_fire : ∀ b i, shown (fire b i) = shown b
  shown_look : ∀ b i now, shown (look b i now) = shown b
  shown_receive : ∀ b i answer, shown (receive b i answer) = shown b
  shown_publish : ∀ b i answer request, toMonitor.inHand b i = some answer →
    (asked b)[i]? = some request → shown (publish b i) = (shows request answer).getD (shown b)
  shown_aside : ∀ b what, Leaves what → shown (aside b what) = shown b

/-- A read: which one it is, in the order in which reads begin, whose it is, and what it asks
for. -/
structure Reading (Request : Type) where
  number : Nat
  loop : Nat
  request : Request
deriving DecidableEq, Repr

/-- What was read so far. -/
structure Journal (Request Answer : Type) where
  /-- How many reads have begun. -/
  begun : Nat
  /-- The latest read of each loop ever started. -/
  latest : List (Option (Reading Request))
  /-- The loop that was started last, unless it was told to stop since. -/
  running : Option Nat
  /-- The answer to its latest read that came while a loop was running, and that it has not shown
  yet. -/
  taken : Nat → Option Answer
  /-- The answers that were shown. -/
  answers : List (Reading Request × Answer)

namespace Journal

variable {Request Answer : Type}

/-- Nothing read, and no loop started. -/
def empty : Journal Request Answer := ⟨0, [], none, fun _ => none, []⟩

/-- No loop shows an answer after one that was started in its place has. -/
def InTurn (j : Journal Request Answer) : Prop :=
  j.answers.Pairwise fun a b => a.1.loop ≤ b.1.loop

/-- Something holds of all reads whose answers came, or may still come. -/
structure All (P : Reading Request → Prop) (j : Journal Request Answer) : Prop where
  latest : ∀ r, some r ∈ j.latest → P r
  answers : ∀ a ∈ j.answers, P a.1

/-- The answer to the latest read of a loop, which counts if the loop is running. -/
def receive (j : Journal Request Answer) (i : Nat) (answer : Answer) : Journal Request Answer :=
  if j.running = some i then
    { j with taken := fun k => if k = i then some answer else j.taken k }
  else j

/-- A loop shows the answer that it has taken. -/
def publish (j : Journal Request Answer) (i : Nat) : Journal Request Answer where
  begun := j.begun
  latest := j.latest
  running := j.running
  taken k := if k = i then none else j.taken k
  answers := j.answers ++ ((j.latest[i]?.join).bind fun r => (j.taken i).map (r, ·)).toList

end Journal

namespace Display

variable {Board Answer Aside Request Shown : Type}

/-- The journal after an event that happens in an execution. -/
def note (d : Display Board Answer Aside Request Shown) (x : MonitorExecution Board)
    (j : Journal Request Answer) : MonitorEvent Answer Aside → Journal Request Answer
  | .watch _ => { j with latest := j.latest ++ [none], running := some j.latest.length }
  | .stop => { j with running := none }
  | .look i =>
    match d.asks x.board i x.now with
    | some request =>
      { j with begun := j.begun + 1, latest := j.latest.set i (some ⟨j.begun, i, request⟩) }
    | none => j
  | .reply i answer => j.receive i answer
  | .publish i => j.publish i
  | .fire _ | .fireAfter .. | .expire _ | .pass _ | .aside _ => j

/-- The journal at the end of a run. -/
def journalFrom (d : Display Board Answer Aside Request Shown) :
    MonitorExecution Board → Journal Request Answer → List (MonitorEvent Answer Aside) →
      Journal Request Answer
  | _, j, [] => j
  | x, j, event :: rest =>
    match d.step? x event with
    | some y => journalFrom d y (d.note x j event) rest
    | none => j

/-- The journal of a run from the beginning. -/
def journal (d : Display Board Answer Aside Request Shown)
    (events : List (MonitorEvent Answer Aside)) : Journal Request Answer :=
  d.journalFrom d.start .empty events

/-- What the answers have shown, in order. -/
def successes (d : Display Board Answer Aside Request Shown)
    (answers : List (Reading Request × Answer)) : List Shown :=
  answers.filterMap fun a => d.shows a.1.request a.2

variable {d : Display Board Answer Aside Request Shown} {x y : MonitorExecution Board}
variable {j : Journal Request Answer} {event : MonitorEvent Answer Aside}
variable {events later : List (MonitorEvent Answer Aside)} {i : Nat} {l : RefreshLoop}

theorem journalFrom_cons (step : d.step? x event = some y) :
    d.journalFrom x j (event :: later) = d.journalFrom y (d.note x j event) later := by
  simp [journalFrom, step]

theorem journalFrom_append (run : d.run? x events = some y) :
    d.journalFrom x j (events ++ later) =
      d.journalFrom y (d.journalFrom x j events) later := by
  induction events generalizing x j with
  | nil =>
      obtain rfl := Option.some.inj run
      rfl
  | cons event rest ih =>
      rw [Monitor.run?, runFrom?_cons, Option.bind_eq_some_iff] at run
      obtain ⟨z, step, goesOn⟩ := run
      rw [List.cons_append, journalFrom_cons step, journalFrom_cons step, ih goesOn]

/-- A run, and its journal, split at an event. -/
theorem journal_split {before : List (MonitorEvent Answer Aside)}
    (run : d.run? d.start (before ++ event :: later) = some x) :
    ∃ y z, d.run? d.start before = some y ∧ d.step? y event = some z ∧ d.run? z later = some x ∧
      d.journal (before ++ event :: later) =
        d.journalFrom z (d.note y (d.journal before) event) later := by
  rw [Monitor.run?, runFrom?_append, Option.bind_eq_some_iff] at run
  obtain ⟨y, earlier, goesOn⟩ := run
  rw [runFrom?_cons, Option.bind_eq_some_iff] at goesOn
  obtain ⟨z, step, goesOn⟩ := goesOn
  refine ⟨y, z, earlier, step, goesOn, ?_⟩
  rw [journal, journalFrom_append earlier, journalFrom_cons step]
  rfl

/-! ## Loops that begin no read -/

/-- No loop was started, none was told to stop, and none reads that did not before. -/
structure Alike (d : Display Board Answer Aside Request Shown) (x y : MonitorExecution Board) :
    Prop where
  length : (d.loops y.board).length = (d.loops x.board).length
  origin : ∀ (i : Nat) after, (d.loops y.board)[i]? = some after → ∃ before,
    (d.loops x.board)[i]? = some before ∧ after.cancelled = before.cancelled ∧
      (after.isBusy = true → before.isBusy = true)

theorem length_of_step (step : d.step? x event = some y) (nothingStarted : x.started event = []) :
    (d.loops y.board).length = (d.loops x.board).length := by
  simp [Monitor.loops, Monitor.reads_step step, nothingStarted]

/-- An event makes loops alike when it starts none, and what it tells each loop does so. -/
theorem Alike.of_step (step : d.step? x event = some y) (nothingStarted : x.started event = [])
    (told : ∀ (i : Nat) before, (d.loops x.board)[i]? = some before →
      (before.after (x.told i event)).cancelled = before.cancelled ∧
        ((before.after (x.told i event)).isBusy = true → before.isBusy = true)) :
    d.Alike x y where
  length := length_of_step step nothingStarted
  origin i after found := by
    rcases Monitor.of_getElem?_step step found with ⟨before, there, rfl⟩ | ⟨fresh, begins, -⟩
    · exact ⟨before, there, told i before there⟩
    · rw [nothingStarted] at begins
      cases begins

/-- A passive event makes loops alike: it tells them to refresh at most, unless it is a stop. -/
theorem Alike.of_isPassive (step : d.step? x event = some y) (passive : event.isPassive = true)
    (goesOn : event ≠ .stop) : d.Alike x y := by
  have told (i : Nat) : x.told i event = [] ∨ x.told i event = [.fire] := by
    cases event with
    | stop => exact absurd rfl goesOn
    | watch _ | look _ | reply _ _ | publish _ => cases passive
    | fireAfter _ _ | pass _ | aside _ => exact Or.inl rfl
    | fire j | expire j =>
        simp only [MonitorExecution.told]
        split
        · exact Or.inr rfl
        · exact Or.inl rfl
  have nothingStarted : x.started event = [] :=
    Monitor.started_eq_nil fun period same => by rw [same] at passive; cases passive
  refine .of_step step nothingStarted fun i before _ => ?_
  rcases told i with nothing | fired
  · simp [nothing, RefreshLoop.after]
  · simp [fired, RefreshLoop.after, RefreshLoop.advance, RefreshLoop.isBusy]

/-- A turn makes loops alike when it asks for nothing. -/
theorem Alike.of_silent (step : d.step? x (.look i) = some y)
    (silent : d.asks x.board i x.now = none) : d.Alike x y := by
  refine .of_step step rfl fun k before there => ?_
  by_cases itself : i = k
  · subst itself
    have idle : before.begins (.look x.now) = false := by
      by_contra begins
      have asks := (d.asks_iff x.board i x.now).mpr ⟨before, there, by simpa using begins⟩
      rw [silent] at asks
      cases asks
    simp [MonitorExecution.told, RefreshLoop.after, RefreshLoop.advance, RefreshLoop.isBusy_look,
      idle]
  · simp [MonitorExecution.told, itself, RefreshLoop.after]

/-- The end of a wait makes loops alike. -/
theorem Alike.of_reply {answer : Answer} (step : d.step? x (.reply i answer) = some y) :
    d.Alike x y := by
  refine .of_step step rfl fun k before _ => ?_
  by_cases itself : i = k
  · subst itself
    simp only [MonitorExecution.told, if_true]
    exact ⟨RefreshLoop.receive_cancelled before, RefreshLoop.isBusy_of_receive⟩
  · simp [MonitorExecution.told, itself, RefreshLoop.after]

/-- The end of a read makes loops alike. -/
theorem Alike.of_publish (step : d.step? x (.publish i) = some y) : d.Alike x y := by
  refine .of_step step rfl fun k before _ => ?_
  by_cases itself : i = k
  · simp [MonitorExecution.told, itself, RefreshLoop.after, RefreshLoop.advance]
  · simp [MonitorExecution.told, itself, RefreshLoop.after]

/-- A loop whose read has ended reads nothing. -/
theorem not_isBusy_of_publish (step : d.step? x (.publish i) = some y)
    (found : (d.loops y.board)[i]? = some l) : l.isBusy = false := by
  rcases Monitor.of_getElem?_step step found with ⟨before, -, rfl⟩ | ⟨fresh, begins, -⟩
  · simp [MonitorExecution.told, RefreshLoop.after, RefreshLoop.advance]
  · cases begins

/-- Nothing is asked for, taken or shown. -/
structure Unmoved (d : Display Board Answer Aside Request Shown) (x y : MonitorExecution Board) :
    Prop where
  asked : d.asked y.board = d.asked x.board
  shown : d.shown y.board = d.shown x.board
  hands : ∀ i, d.inHand y.board i = d.inHand x.board i

theorem Unmoved.of_isPassive (step : d.step? x event = some y) (passive : event.isPassive = true)
    (leaves : ∀ what, event = .aside what → d.Leaves what) : d.Unmoved x y := by
  have other : event.isOfAnswer = false := by
    cases event with
    | watch _ | look _ | reply _ _ | publish _ => cases passive
    | stop | fire _ | fireAfter _ _ | expire _ | pass _ | aside _ => rfl
  have hands := Monitor.inHand_of_not_isOfAnswer step other
  cases event with
  | watch _ | look _ | reply _ _ | publish _ => cases passive
  | stop =>
      obtain rfl := Option.some.inj step
      exact ⟨d.asked_stop .., d.shown_stop .., hands⟩
  | fire i =>
      obtain rfl := Option.some.inj step
      exact ⟨d.asked_fire .., d.shown_fire .., hands⟩
  | expire k =>
      obtain ⟨due, i, -, -, rfl⟩ := Monitor.step?_expire step
      exact ⟨d.asked_fire .., d.shown_fire .., hands⟩
  | fireAfter _ _ | pass _ =>
      obtain rfl := Option.some.inj step
      exact ⟨rfl, rfl, hands⟩
  | aside what =>
      have shown := d.shown_aside x.board what (leaves what rfl)
      obtain rfl := Option.some.inj step
      exact ⟨d.asked_aside .., shown, hands⟩

/-- A turn that asks for nothing. -/
theorem Unmoved.of_silent (step : d.step? x (.look i) = some y)
    (silent : d.asks x.board i x.now = none) : d.Unmoved x y := by
  have hands := Monitor.inHand_of_not_isOfAnswer step rfl
  obtain ⟨-, rfl⟩ := Monitor.step?_look step
  refine ⟨?_, d.shown_look .., hands⟩
  rw [d.asked_look, silent]
  rfl

/-! ## The invariant -/

/-- The board agrees with the journal. -/
structure Keeps (d : Display Board Answer Aside Request Shown) (x : MonitorExecution Board)
    (j : Journal Request Answer) : Prop where
  aligned : j.latest.length = (d.loops x.board).length
  /-- The running loop is the one that was not told to stop. -/
  running : ∀ (i : Nat) l, (d.loops x.board)[i]? = some l →
    (l.cancelled = false ↔ j.running = some i)
  /-- It is the last one that was started. -/
  last : ∀ i, j.running = some i → i + 1 = j.latest.length
  /-- A loop that reads remembers what its latest read asks for. -/
  reading : ∀ (i : Nat) l, (d.loops x.board)[i]? = some l → l.isBusy = true →
    ∃ r, j.latest[i]? = some (some r) ∧ (d.asked x.board)[i]? = some r.request
  holds : ∀ (i : Nat) r, (d.reads x.board)[i]? = some r → r.Holds
  taken : ∀ i, d.inHand x.board i = j.taken i
  counted : ∀ (i : Nat) r, j.latest[i]? = some (some r) → r.number < j.begun ∧ r.loop = i
  answered : ∀ a ∈ j.answers, a.1.number < j.begun ∧ a.1.loop < j.latest.length
  /-- A loop reads nothing once another was started in its place. -/
  replaced : ∀ (i k : Nat) r q, j.latest[i]? = some (some r) → j.latest[k]? = some (some q) →
    i < k → r.number < q.number
  /-- What is being read began after all that this loop, and those before it, have shown. -/
  inFlight : ∀ (i : Nat) l r, (d.loops x.board)[i]? = some l → l.isBusy = true →
    j.latest[i]? = some (some r) → ∀ a ∈ j.answers, a.1.number < r.number ↔ a.1.loop ≤ i
  /-- Answers are shown in the order of their reads, but for those of a loop that shows one after
  another loop, which was started in its place, has. -/
  ordered : j.answers.Pairwise fun a b => a.1.number < b.1.number ↔ a.1.loop ≤ b.1.loop
  /-- What is shown is the last success. -/
  shown : d.shown x.board = (d.successes j.answers).getLast?.getD (d.shown d.empty)

theorem keeps_start (d : Display Board Answer Aside Request Shown) :
    d.Keeps d.start .empty where
  aligned := by simp [Journal.empty, Monitor.start, Monitor.loops, d.reads_empty]
  running i l found := by simp [Monitor.start, Monitor.loops, d.reads_empty] at found
  last i running := by cases running
  reading i l found := by simp [Monitor.start, Monitor.loops, d.reads_empty] at found
  holds i r found := by simp [Monitor.start, d.reads_empty] at found
  taken i := by simp [Journal.empty, Monitor.start, Monitor.inHand, d.reads_empty]
  counted i r latest := by simp [Journal.empty] at latest
  answered a mem := by cases mem
  replaced i k r q latest := by simp [Journal.empty] at latest
  inFlight i l r found := by simp [Monitor.start, Monitor.loops, d.reads_empty] at found
  ordered := .nil
  shown := rfl

namespace Keeps

/-- An event that begins no read, and shows nothing new. -/
theorem of_alike {taken : Nat → Option Answer} (keeps : d.Keeps x j)
    (step : d.step? x event = some y) (alike : d.Alike x y)
    (asked : d.asked y.board = d.asked x.board) (shown : d.shown y.board = d.shown x.board)
    (hands : ∀ i, d.inHand y.board i = taken i) : d.Keeps y { j with taken } where
  aligned := keeps.aligned.trans alike.length.symm
  running i after found := by
    obtain ⟨before, there, cancelled, -⟩ := alike.origin i after found
    rw [cancelled]
    exact keeps.running i before there
  last := keeps.last
  reading i after found busy := by
    obtain ⟨before, there, -, wasBusy⟩ := alike.origin i after found
    rw [asked]
    exact keeps.reading i before there (wasBusy busy)
  holds := Monitor.holds_step step keeps.holds
  taken := hands
  counted := keeps.counted
  answered := keeps.answered
  replaced := keeps.replaced
  inFlight i after r found busy := by
    obtain ⟨before, there, -, wasBusy⟩ := alike.origin i after found
    exact keeps.inFlight i before r there (wasBusy busy)
  ordered := keeps.ordered
  shown := shown.trans keeps.shown

/-- An event in which no loop takes an answer either. -/
theorem of_unmoved (keeps : d.Keeps x j) (step : d.step? x event = some y) (alike : d.Alike x y)
    (unmoved : d.Unmoved x y) : d.Keeps y j :=
  keeps.of_alike step alike unmoved.asked unmoved.shown fun i =>
    (unmoved.hands i).trans (keeps.taken i)

theorem stop (keeps : d.Keeps x j) (step : d.step? x .stop = some y) :
    d.Keeps y { j with running := none } := by
  have unmoved : d.Unmoved x y := .of_isPassive step rfl nofun
  -- Each loop is as it was, but told to stop.
  have origin (i : Nat) (after : RefreshLoop) (found : (d.loops y.board)[i]? = some after) :
      ∃ before, (d.loops x.board)[i]? = some before ∧ after = before.cancel := by
    rcases Monitor.of_getElem?_step step found with ⟨before, there, rfl⟩ | ⟨fresh, begins, -⟩
    · exact ⟨before, there, rfl⟩
    · cases begins
  constructor
  case aligned => exact keeps.aligned.trans (length_of_step step rfl).symm
  case running =>
    intro i after found
    obtain ⟨before, -, rfl⟩ := origin i after found
    simp [RefreshLoop.cancel]
  case last =>
    intro i running
    cases running
  case reading =>
    intro i after found busy
    obtain ⟨before, there, rfl⟩ := origin i after found
    rw [unmoved.asked]
    exact keeps.reading i before there busy
  case holds => exact Monitor.holds_step step keeps.holds
  case taken => exact fun i => (unmoved.hands i).trans (keeps.taken i)
  case counted => exact keeps.counted
  case answered => exact keeps.answered
  case replaced => exact keeps.replaced
  case inFlight =>
    intro i after r found busy
    obtain ⟨before, there, rfl⟩ := origin i after found
    exact keeps.inFlight i before r there busy
  case ordered => exact keeps.ordered
  case shown => exact unmoved.shown.trans keeps.shown

/-- A loop that has just been started is not busy. -/
theorem not_isBusy_start (period now : Nat) :
    (RefreshLoop.start period now).isBusy = false := by
  unfold RefreshLoop.start RefreshLoop.isBusy
  by_cases none : period = 0 <;> simp [none]

theorem watch {period : Nat} (keeps : d.Keeps x j) (step : d.step? x (.watch period) = some y) :
    d.Keeps y { j with latest := j.latest ++ [none], running := some j.latest.length } := by
  have same : y = { x with board := d.watch x.board period x.now } := (Option.some.inj step).symm
  have loops : d.loops y.board =
      (d.loops x.board).map RefreshLoop.cancel ++ [.start period x.now] := by
    simp only [same, Monitor.loops, d.reads_watch, List.map_append, List.map_map]
    rfl
  -- A loop is an earlier one that was told to stop, or the new one, which comes last.
  have cases (i : Nat) (after : RefreshLoop) (found : (d.loops y.board)[i]? = some after) :
      (∃ before, (d.loops x.board)[i]? = some before ∧ after = before.cancel ∧
        i < j.latest.length) ∨
      (after = .start period x.now ∧ i = j.latest.length) := by
    rw [loops, List.getElem?_append, List.length_map] at found
    rw [keeps.aligned]
    split at found
    · next inside =>
      rw [List.getElem?_map, Option.map_eq_some_iff] at found
      obtain ⟨before, there, rfl⟩ := found
      exact Or.inl ⟨before, there, rfl, inside⟩
    · next outside =>
      rw [List.getElem?_singleton] at found
      split at found
      · exact Or.inr ⟨(Option.some.inj found).symm, by omega⟩
      · cases found
  -- The new loop has read nothing yet.
  have earlier (i : Nat) (r : Reading Request)
      (latest : (j.latest ++ [none])[i]? = some (some r)) : j.latest[i]? = some (some r) := by
    rw [List.getElem?_append] at latest
    split at latest
    · exact latest
    · rw [List.getElem?_singleton] at latest
      split at latest <;> simp at latest
  constructor
  case aligned => simp [loops, keeps.aligned]
  case running =>
    intro i after found
    rcases cases i after found with ⟨before, -, rfl, inside⟩ | ⟨rfl, rfl⟩
    · have other : j.latest.length ≠ i := by omega
      simp [RefreshLoop.cancel, other]
    · simp [RefreshLoop.start]
  case last =>
    intro i running
    rw [← Option.some.inj running, List.length_append]
    rfl
  case reading =>
    intro i after found busy
    rcases cases i after found with ⟨before, there, rfl, -⟩ | ⟨rfl, -⟩
    · obtain ⟨r, latest, asked⟩ := keeps.reading i before there busy
      obtain ⟨any, more⟩ := d.asked_watch x.board period x.now
      refine ⟨r, ?_, ?_⟩
      · rw [List.getElem?_append_left (List.getElem?_eq_some_iff.mp latest).1]
        exact latest
      · rw [same, more, List.getElem?_append_left (List.getElem?_eq_some_iff.mp asked).1]
        exact asked
    · rw [not_isBusy_start] at busy
      cases busy
  case holds => exact Monitor.holds_step step keeps.holds
  case taken =>
    exact fun i => (Monitor.inHand_of_not_isOfAnswer step rfl i).trans (keeps.taken i)
  case counted => exact fun i r latest => keeps.counted i r (earlier i r latest)
  case answered =>
    intro a mem
    obtain ⟨number, loop⟩ := keeps.answered a mem
    exact ⟨number, by rw [List.length_append]; omega⟩
  case replaced =>
    exact fun i k r q first second =>
      keeps.replaced i k r q (earlier i r first) (earlier k q second)
  case inFlight =>
    intro i after r found busy latest
    rcases cases i after found with ⟨before, there, rfl, -⟩ | ⟨rfl, -⟩
    · exact keeps.inFlight i before r there busy (earlier i r latest)
    · rw [not_isBusy_start] at busy
      cases busy
  case ordered => exact keeps.ordered
  case shown =>
    rw [same]
    exact (d.shown_watch x.board period x.now).trans keeps.shown

/-- A loop that asks for something is the running one. -/
theorem running_of_asks {request : Request} (keeps : d.Keeps x j)
    (asks : d.asks x.board i x.now = some request) : j.running = some i := by
  obtain ⟨l, found, begins⟩ := (d.asks_iff x.board i x.now).mp (by rw [asks]; rfl)
  refine (keeps.running i l found).mp ?_
  by_contra cancelled
  rw [RefreshLoop.begins_of_cancelled (by simpa using cancelled)] at begins
  cases begins

/-- A turn that asks for something begins a read of that. -/
theorem look_of_asks {request : Request} (keeps : d.Keeps x j)
    (step : d.step? x (.look i) = some y) (asks : d.asks x.board i x.now = some request) :
    d.Keeps y { j with
      begun := j.begun + 1, latest := j.latest.set i (some ⟨j.begun, i, request⟩) } := by
  obtain ⟨-, same⟩ := Monitor.step?_look step
  have last := keeps.last i (keeps.running_of_asks asks)
  have inside : i < j.latest.length := by omega
  have asked : d.asked y.board = (d.asked x.board).set i request := by
    rw [same, d.asked_look, asks]
    rfl
  -- Other loops are as they were, and have read what they had.
  have others (k : Nat) (after : RefreshLoop) (other : i ≠ k)
      (found : (d.loops y.board)[k]? = some after) : (d.loops x.board)[k]? = some after := by
    rcases Monitor.of_getElem?_step step found with ⟨before, there, rfl⟩ | ⟨fresh, begins, -⟩
    · simpa [MonitorExecution.told, other, RefreshLoop.after] using there
    · cases begins
  have itself : (j.latest.set i (some ⟨j.begun, i, request⟩))[i]? =
      some (some ⟨j.begun, i, request⟩) := List.getElem?_set_self inside
  have latest (k : Nat) (r : Reading Request)
      (found : (j.latest.set i (some ⟨j.begun, i, request⟩))[k]? = some (some r)) :
      (k = i ∧ r = ⟨j.begun, i, request⟩) ∨ (i ≠ k ∧ j.latest[k]? = some (some r)) := by
    by_cases same : i = k
    · subst same
      rw [itself] at found
      exact Or.inl ⟨rfl, (Option.some.inj (Option.some.inj found)).symm⟩
    · rw [List.getElem?_set_ne same] at found
      exact Or.inr ⟨same, found⟩
  constructor
  case aligned => rw [List.length_set, length_of_step step rfl, keeps.aligned]
  case running =>
    intro k after found
    rcases Monitor.of_getElem?_step step found with ⟨before, there, rfl⟩ | ⟨fresh, begins, -⟩
    · have cancelled : (before.after (x.told k (.look i : MonitorEvent Answer Aside))).cancelled =
          before.cancelled := by
        by_cases itself : i = k <;>
          simp [MonitorExecution.told, itself, RefreshLoop.after, RefreshLoop.advance]
      rw [cancelled]
      exact keeps.running k before there
    · cases begins
  case last =>
    intro k running
    rw [List.length_set]
    exact keeps.last k running
  case reading =>
    intro k after found busy
    by_cases this : i = k
    · subst this
      refine ⟨⟨j.begun, i, request⟩, itself, ?_⟩
      rw [asked]
      exact List.getElem?_set_self (by rw [d.length_asked, ← keeps.aligned]; exact inside)
    · obtain ⟨r, latest, remembered⟩ := keeps.reading k after (others k after this found) busy
      refine ⟨r, ?_, ?_⟩
      · rw [List.getElem?_set_ne this]
        exact latest
      · rw [asked, List.getElem?_set_ne this]
        exact remembered
  case holds => exact Monitor.holds_step step keeps.holds
  case taken =>
    intro k
    rw [Monitor.inHand_of_not_isOfAnswer step rfl, keeps.taken]
  case counted =>
    intro k r found
    rcases latest k r found with ⟨rfl, rfl⟩ | ⟨-, before⟩
    · exact ⟨Nat.lt_succ_self _, rfl⟩
    · obtain ⟨number, loop⟩ := keeps.counted k r before
      exact ⟨Nat.lt_succ_of_lt number, loop⟩
  case answered =>
    intro a mem
    obtain ⟨number, loop⟩ := keeps.answered a mem
    exact ⟨Nat.lt_succ_of_lt number, by rwa [List.length_set]⟩
  case replaced =>
    intro k m r q first second earlier
    rcases latest m q second with ⟨rfl, rfl⟩ | ⟨_, later⟩
    · rcases latest k r first with ⟨rfl, -⟩ | ⟨-, before⟩
      · exact absurd earlier (Nat.lt_irrefl _)
      · exact (keeps.counted k r before).1
    · -- No loop was started after the one that begins a read.
      have inside := (List.getElem?_eq_some_iff.mp later).1
      rcases latest k r first with ⟨rfl, -⟩ | ⟨-, before⟩
      · omega
      · exact keeps.replaced k m r q before later earlier
  case inFlight =>
    intro k after r found busy recent a mem
    rcases latest k r recent with ⟨rfl, rfl⟩ | ⟨other, before⟩
    · obtain ⟨number, loop⟩ := keeps.answered a mem
      exact iff_of_true number (by omega)
    · exact keeps.inFlight k after r (others k after other found) busy before a mem
  case ordered => exact keeps.ordered
  case shown =>
    rw [same, d.shown_look]
    exact keeps.shown

/-- An answer arrives. -/
theorem reply {answer : Answer} (keeps : d.Keeps x j)
    (step : d.step? x (.reply i answer) = some y) : d.Keeps y (j.receive i answer) := by
  obtain ⟨⟨r, there, -, -⟩, same⟩ := Monitor.step?_reply step
  have asked : d.asked y.board = d.asked x.board := by rw [same, d.asked_receive]
  have shown : d.shown y.board = d.shown x.board := by rw [same, d.shown_receive]
  have found : (d.loops x.board)[i]? = some r.refresh := by simp [Monitor.loops, there]
  have takes := keeps.running i r.refresh found
  have hands := Monitor.inHand_reply step there
  have arrived := keeps.of_alike step (.of_reply step) asked shown hands
  unfold Journal.receive
  split
  · next running =>
    simpa only [takes.mpr running, and_true, keeps.taken] using arrived
  · next stopped =>
    have cancelled : ¬ r.refresh.cancelled = false := fun goesOn => stopped (takes.mp goesOn)
    simpa only [eq_false cancelled, and_false, if_false, keeps.taken] using arrived

theorem successes_concat (answers : List (Reading Request × Answer)) (r : Reading Request)
    (answer : Answer) : d.successes (answers ++ [(r, answer)]) =
      d.successes answers ++ (d.shows r.request answer).toList := by
  cases success : d.shows r.request answer <;> simp [successes, success]

/-- An answer that is in the hand of a loop answers the loop's latest read. -/
theorem exists_of_inHand {answer : Answer} (keeps : d.Keeps x j)
    (held : d.inHand x.board i = some answer) :
    ∃ l r, (d.loops x.board)[i]? = some l ∧ l.isBusy = true ∧ j.latest[i]? = some (some r) ∧
      (d.asked x.board)[i]? = some r.request := by
  obtain ⟨loop, there, inHand⟩ := Option.bind_eq_some_iff.mp held
  have busy := keeps.holds i loop there (by rw [inHand]; rfl)
  have found : (d.loops x.board)[i]? = some loop.refresh := by simp [Monitor.loops, there]
  obtain ⟨r, latest, remembered⟩ := keeps.reading i loop.refresh found busy
  exact ⟨loop.refresh, r, found, busy, latest, remembered⟩

/-- **An answer is shown**, whether the loop was told to stop or not. -/
theorem publish (keeps : d.Keeps x j) (step : d.step? x (.publish i) = some y) :
    d.Keeps y (j.publish i) := by
  obtain ⟨⟨answer, held⟩, same⟩ := Monitor.step?_publish step
  obtain ⟨l, r, found, busy, latest, remembered⟩ := keeps.exists_of_inHand held
  obtain ⟨number, place⟩ := keeps.counted i r latest
  have asked : d.asked y.board = d.asked x.board := by rw [same, d.asked_publish]
  have shown := d.shown_publish x.board i answer r.request held remembered
  have answers : (j.publish i).answers = j.answers ++ [(r, answer)] := by
    simp [Journal.publish, latest, ← keeps.taken, held]
  have alike : d.Alike x y := .of_publish step
  constructor
  case aligned => exact keeps.aligned.trans alike.length.symm
  case running =>
    intro k after found
    obtain ⟨before, there, cancelled, -⟩ := alike.origin k after found
    rw [cancelled]
    exact keeps.running k before there
  case last => exact keeps.last
  case reading =>
    intro k after found busy
    obtain ⟨before, there, -, wasBusy⟩ := alike.origin k after found
    rw [asked]
    exact keeps.reading k before there (wasBusy busy)
  case holds => exact Monitor.holds_step step keeps.holds
  case taken =>
    intro k
    rw [Monitor.inHand_publish step k, keeps.taken k]
    rfl
  case counted => exact keeps.counted
  case answered =>
    intro a mem
    rw [answers] at mem
    rcases List.mem_append.mp mem with old | new
    · exact keeps.answered a old
    · rw [List.mem_singleton.mp new]
      exact ⟨number, place ▸ (List.getElem?_eq_some_iff.mp latest).1⟩
  case replaced => exact keeps.replaced
  case inFlight =>
    intro k after q here reads recent a mem
    have other : k ≠ i := by
      rintro rfl
      rw [not_isBusy_of_publish step here] at reads
      cases reads
    rw [answers] at mem
    rcases List.mem_append.mp mem with old | new
    · obtain ⟨before, earlier, -, wasBusy⟩ := alike.origin k after here
      exact keeps.inFlight k before q earlier (wasBusy reads) recent a old
    · -- The read that has ended began before the other one exactly if its loop did.
      rw [List.mem_singleton.mp new, place]
      rcases Nat.lt_or_gt_of_ne other with after | before
      · have later := keeps.replaced k i q r recent latest after
        exact iff_of_false (Nat.not_lt.mpr (Nat.le_of_lt later)) (Nat.not_le.mpr after)
      · exact iff_of_true (keeps.replaced i k r q latest recent before) (Nat.le_of_lt before)
  case ordered =>
    rw [answers, List.pairwise_append]
    refine ⟨keeps.ordered, List.pairwise_singleton _ _, fun a old b new => ?_⟩
    rw [List.mem_singleton.mp new, place]
    exact keeps.inFlight i l r found busy latest a old
  case shown =>
    rw [answers, same, shown, keeps.shown, successes_concat]
    cases d.shows r.request answer <;> simp

/-- **Each event keeps the board in agreement with the journal.** -/
theorem step (keeps : d.Keeps x j) (step : d.step? x event = some y)
    (leaves : ∀ what, event = .aside what → d.Leaves what) : d.Keeps y (d.note x j event) := by
  cases event with
  | watch period => exact keeps.watch step
  | stop => exact keeps.stop step
  | look i =>
      simp only [note]
      cases asks : d.asks x.board i x.now with
      | none => exact keeps.of_unmoved step (.of_silent step asks) (.of_silent step asks)
      | some request => exact keeps.look_of_asks step asks
  | reply i answer => exact keeps.reply step
  | publish i => exact keeps.publish step
  | fire _ | fireAfter _ _ | expire _ | pass _ | aside _ =>
      exact keeps.of_unmoved step (.of_isPassive step rfl nofun) (.of_isPassive step rfl leaves)

/-- **The board agrees with the journal at the end of a run**, if it did at the beginning. -/
theorem run (keeps : d.Keeps x j) (run : d.run? x later = some y)
    (leaves : ∀ what, .aside what ∈ later → d.Leaves what) :
    d.Keeps y (d.journalFrom x j later) := by
  induction later generalizing x j with
  | nil =>
      obtain rfl := Option.some.inj run
      exact keeps
  | cons event rest ih =>
      rw [Monitor.run?, runFrom?_cons, Option.bind_eq_some_iff] at run
      obtain ⟨z, step, goesOn⟩ := run
      rw [journalFrom_cons step]
      refine ih (keeps.step step fun what same => ?_) goesOn fun what mem => ?_
      · exact leaves what (same ▸ List.mem_cons_self)
      · exact leaves what (List.mem_cons_of_mem event mem)

/-- With a single loop there is no one to be overtaken by. -/
theorem inTurn (keeps : d.Keeps x j) (single : (d.loops x.board).length ≤ 1) : j.InTurn := by
  refine keeps.ordered.imp_of_mem fun {a b} first second _ => ?_
  have inside := (keeps.answered a first).2
  rw [keeps.aligned] at inside
  omega

/-- Answers that are shown in turn are in the order of their reads. -/
theorem numbers_of_inTurn (keeps : d.Keeps x j) (inTurn : j.InTurn) :
    j.answers.Pairwise fun a b => a.1.number < b.1.number :=
  (keeps.ordered.and inTurn).imp fun both => both.1.mpr both.2

end Keeps

theorem keeps_of_run? (run : d.run? d.start events = some x)
    (leaves : ∀ what, .aside what ∈ events → d.Leaves what) : d.Keeps x (d.journal events) :=
  (keeps_start d).run run leaves

/-- In a list in which a measure grows, the last success is no earlier than any other. -/
theorem exists_last_success {α β : Type} (success : α → Option β) {number : α → Nat} {xs : List α}
    (ordered : xs.Pairwise fun a b => number a < number b) {a : α} (mem : a ∈ xs)
    (succeeds : (success a).isSome = true) :
    ∃ b ∈ xs, number a ≤ number b ∧ (xs.filterMap success).getLast? = success b := by
  -- The induction is on the list from its end, which is a success or is passed over.
  induction xs using List.reverseRecOn with
  | nil => cases mem
  | append_singleton xs last ih =>
      obtain ⟨earlier, -, before⟩ := List.pairwise_append.mp ordered
      rcases List.mem_append.mp mem with inside | itself
      · cases ends : success last with
        | none =>
            obtain ⟨b, there, later, same⟩ := ih earlier inside
            exact ⟨b, List.mem_append_left _ there, later, by simpa [ends] using same⟩
        | some shown =>
            refine ⟨last, by simp, ?_, by simp [ends]⟩
            exact Nat.le_of_lt (before a inside last (List.mem_singleton_self last))
      · rw [List.mem_singleton.mp itself] at succeeds ⊢
        obtain ⟨shown, ends⟩ := Option.isSome_iff_exists.mp succeeds
        exact ⟨last, by simp, Nat.le_refl _, by simp [ends]⟩

/-- Once a read has succeeded, what is shown is of that read or of one that began later. -/
theorem Keeps.shown_of_success (keeps : d.Keeps x j) (inTurn : j.InTurn)
    {a : Reading Request × Answer} (mem : a ∈ j.answers)
    (succeeds : (d.shows a.1.request a.2).isSome = true) :
    ∃ b ∈ j.answers, a.1.number ≤ b.1.number ∧
      d.shows b.1.request b.2 = some (d.shown x.board) := by
  obtain ⟨b, there, later, last⟩ :=
    exists_last_success (fun a => d.shows a.1.request a.2) (keeps.numbers_of_inTurn inTurn) mem
      succeeds
  refine ⟨b, there, later, ?_⟩
  have nonempty : (d.successes j.answers).getLast?.isSome = true := by
    rw [List.getLast?_isSome]
    intro empty
    have none := List.filterMap_eq_nil_iff.mp empty a mem
    rw [none] at succeeds
    cases succeeds
  obtain ⟨shown, ends⟩ := Option.isSome_iff_exists.mp nonempty
  rw [keeps.shown, ends, ← last]
  exact ends

/-- The arrival of an answer changes nothing that is shown. -/
theorem shown_of_reply {answer : Answer} (step : d.step? x (.reply i answer) = some y) :
    d.shown y.board = d.shown x.board := by
  obtain ⟨-, rfl⟩ := Monitor.step?_reply step
  exact d.shown_receive x.board i answer

/-- An answer that is no success changes nothing that is shown. -/
theorem Keeps.shown_of_failure {answer : Answer} (keeps : d.Keeps x j)
    (held : d.inHand x.board i = some answer) (step : d.step? x (.publish i) = some y)
    (fails : ∀ request, d.shows request answer = none) : d.shown y.board = d.shown x.board := by
  obtain ⟨-, rfl⟩ := Monitor.step?_publish step
  obtain ⟨-, r, -, -, -, remembered⟩ := keeps.exists_of_inHand held
  rw [d.shown_publish x.board i answer r.request held remembered, fails]
  rfl

/-! ## What is asked for from some point on -/

variable {P : Reading Request → Prop}

/-- What holds of all reads holds still after an event, if it holds of the one that begins. -/
theorem all_note (all : j.All P)
    (begins : ∀ i now request, d.asks x.board i now = some request → P ⟨j.begun, i, request⟩) :
    (d.note x j event).All P := by
  cases event with
  | watch period =>
      refine ⟨fun r mem => all.latest r ?_, all.answers⟩
      simpa [note] using mem
  | look i =>
      simp only [note]
      cases asks : d.asks x.board i x.now with
      | none => exact all
      | some request =>
          refine ⟨fun r mem => ?_, all.answers⟩
          rcases List.mem_or_eq_of_mem_set mem with old | new
          · exact all.latest r old
          · rw [Option.some.inj new]
            exact begins i x.now request asks
  | reply i answer =>
      simp only [note, Journal.receive]
      split <;> exact ⟨all.latest, all.answers⟩
  | publish i =>
      refine ⟨all.latest, fun a mem => ?_⟩
      rcases List.mem_append.mp mem with old | new
      · exact all.answers a old
      · simp only [Option.mem_toList, Option.bind_eq_some_iff, Option.map_eq_some_iff,
          Option.join_eq_some_iff] at new
        obtain ⟨r, found, answer, -, rfl⟩ := new
        exact all.latest r (List.mem_of_getElem? found)
  | stop | fire _ | fireAfter _ _ | expire _ | pass _ | aside _ => exact ⟨all.latest, all.answers⟩

/-- **What holds of all reads holds at the end of a run**, if it holds of all that begin on a board
of a kind, and the events of the run keep the kind. -/
theorem all_of_run? (kind : Board → Prop) (run : d.run? x later = some y) (ofKind : kind x.board)
    (keep : ∀ event ∈ later, ∀ x y, d.step? x event = some y → kind x.board → kind y.board)
    (begins : ∀ b i now request number, kind b → d.asks b i now = some request →
      P ⟨number, i, request⟩) (all : j.All P) : (d.journalFrom x j later).All P := by
  induction later generalizing x j with
  | nil => exact all
  | cons event rest ih =>
      rw [Monitor.run?, runFrom?_cons, Option.bind_eq_some_iff] at run
      obtain ⟨z, step, goesOn⟩ := run
      rw [journalFrom_cons step]
      refine ih goesOn (keep event List.mem_cons_self x z step ofKind) ?_ ?_
      · exact fun event mem => keep event (List.mem_cons_of_mem _ mem)
      · exact all_note all fun i now request => begins x.board i now request _ ofKind

end Display

end StrategyDesk
