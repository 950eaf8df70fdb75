import Mathlib.Data.List.Basic
import StrategyDesk.Monitor.Logs
import StrategyDesk.Monitor.Status
import StrategyDesk.Proofs.Monitor.Loops
import StrategyDesk.Proofs.Runs

/-!
# Executions of the monitors

A monitor among those who use it: loops are started and told to stop, requests are made at once or
after a delay, the clock moves on, and the engine answers each read whenever it likes.  Both
monitors do the same to their loops, so that what holds of requests is proved once.

## Main Definitions

* `Monitor` — a board with loops that read, and what can be done to it
* `StatusBoard.monitor`, `LogBoard.monitor` — the two monitors
* `MonitorEvent`, `Monitor.step?`, `Monitor.run?` — what may happen next
* `Monitor.heard` — what the events of a run are to one loop

## Main Statements

* `Monitor.reads_step` — what an event does to the loops
* `Monitor.getElem?_after` — a loop does what it heard
* `Monitor.no_request_lost` — requests are answered, those of one refresh by one, and refreshes do
  not overlap

## Design Notes

The arrival of an answer and its showing are two events: whoever tells a loop to stop, or asks it
for a refresh, may do so in between.
-/

namespace StrategyDesk

/-- A board with loops that read, and what can be done to it. -/
structure Monitor (Board Answer Aside : Type) where
  empty : Board
  reads : Board → List (ReadLoop Answer)
  watch : Board → (period now : Nat) → Board
  stop : Board → Board
  fire : Board → (i : Nat) → Board
  look : Board → (i now : Nat) → Board
  receive : Board → (i : Nat) → Answer → Board
  publish : Board → (i : Nat) → Board
  /-- Something that is no business of the loops. -/
  aside : Board → Aside → Board
  reads_empty : reads empty = []
  reads_watch : ∀ b period now,
    reads (watch b period now) = (reads b).map (·.update .cancel) ++ [.start period now]
  reads_stop : ∀ b, reads (stop b) = (reads b).map (·.update .cancel)
  reads_fire : ∀ b i, reads (fire b i) = (reads b).modify i (·.update .fire)
  reads_look : ∀ b i now, reads (look b i now) = (reads b).modify i (·.update (·.look now))
  reads_receive : ∀ b i answer, reads (receive b i answer) = (reads b).modify i (·.receive answer)
  reads_publish : ∀ b i, ((reads b)[i]?.bind ReadLoop.inHand).isSome = true →
    reads (publish b i) = (reads b).modify i ReadLoop.finish
  reads_aside : ∀ b what, reads (aside b what) = reads b

/-! ## The two monitors -/

section Lists

variable {α β : Type} {xs : List α} {i : Nat} {a : α}

/-- To change what stands at a place is to set it. -/
theorem modify_of_getElem? (found : xs[i]? = some a) (f : α → α) :
    xs.modify i f = xs.set i (f a) := by
  rw [List.modify_eq_set_getElem?, found]
  rfl

theorem modify_of_getElem?_none (missing : xs[i]? = none) (f : α → α) : xs.modify i f = xs :=
  List.modify_eq_self (List.getElem?_eq_none_iff.mp missing)

/-- A change at one place, seen through a map. -/
theorem map_modify_of_comm {g : α → β} {f : α → α} {f' : β → β} (comm : ∀ a, g (f a) = f' (g a))
    (xs : List α) (i : Nat) : (xs.modify i f).map g = (xs.map g).modify i f' := by
  refine List.ext_getElem? fun j => ?_
  rw [List.getElem?_map, List.getElem?_modify, List.getElem?_modify, List.getElem?_map]
  cases xs[j]? with
  | none => rfl
  | some a => by_cases same : i = j <;> simp [same, comm]

theorem modify_eq_mapIdx (f : α → α) (xs : List α) (j : Nat) :
    xs.modify j f = xs.mapIdx fun i a => if j = i then f a else a := by
  refine List.ext_getElem? fun i => ?_
  rw [List.getElem?_modify, List.getElem?_mapIdx]
  cases xs[i]? with
  | none => rfl
  | some a => by_cases same : j = i <;> simp [same]

theorem map_eq_mapIdx (f : α → α) (xs : List α) : xs.map f = xs.mapIdx fun _ a => f a := by
  refine List.ext_getElem? fun i => ?_
  rw [List.getElem?_mapIdx, List.getElem?_map]

theorem eq_mapIdx_self (xs : List α) : xs = xs.mapIdx fun _ a => a :=
  (List.map_id' xs).symm.trans (map_eq_mapIdx (fun a => a) xs)

end Lists

namespace StatusBoard

theorem loops_look (b : StatusBoard) (i now : Nat) :
    (b.look i now).1.loops = b.loops.modify i (·.update (·.look now)) := by
  unfold look
  cases found : b.loops[i]? with
  | none => exact (modify_of_getElem?_none found _).symm
  | some loop => exact (modify_of_getElem? found (·.update (·.look now))).symm

theorem loops_publish (b : StatusBoard) (i : Nat)
    (held : (b.loops[i]?.bind ReadLoop.inHand).isSome = true) :
    (b.publish i).loops = b.loops.modify i ReadLoop.finish := by
  obtain ⟨answer, inHand⟩ := Option.isSome_iff_exists.mp held
  simp [publish, inHand]

/-- The status monitor. Aside from its loops, the status is read once. -/
def monitor : Monitor StatusBoard (Except Error ServiceStatus) (Except Error ServiceStatus) where
  empty := .empty
  reads := loops
  watch := watch
  stop := stop
  fire := fire
  look b i now := (b.look i now).1
  receive := receive
  publish := publish
  aside := take
  reads_empty := rfl
  reads_watch _ _ _ := rfl
  reads_stop _ := rfl
  reads_fire _ _ := rfl
  reads_look := loops_look
  reads_receive _ _ _ := rfl
  reads_publish := loops_publish
  reads_aside _ what := by cases what <;> rfl

end StatusBoard

/-- What is done to the log monitor aside from its loops. -/
inductive LogAside where
  | setSource (source : LogSource)
  /-- A source is read once. -/
  | read (source : LogSource) (answer : Except Error (List LogLine))

namespace LogBoard

/-- The loops, without what they ask for. -/
def reads (b : LogBoard) : List (ReadLoop (Except Error (List LogLine))) :=
  b.loops.map LogLoop.toReadLoop

theorem getElem?_reads {b : LogBoard} {i : Nat} {loop : LogLoop}
    (found : b.loops[i]? = some loop) : b.reads[i]? = some loop.toReadLoop := by
  simp [reads, found]

/-- A change of a loop that is one of its reading. -/
theorem reads_modify {b after : LogBoard} {i : Nat} {f : LogLoop → LogLoop}
    {f' : ReadLoop (Except Error (List LogLine)) → ReadLoop (Except Error (List LogLine))}
    (changed : after.loops = b.loops.modify i f)
    (same : ∀ l, (f l).toReadLoop = f' l.toReadLoop) : after.reads = b.reads.modify i f' := by
  rw [reads, changed]
  exact map_modify_of_comm same b.loops i

theorem reads_look (b : LogBoard) (i now : Nat) :
    (b.look i now).1.reads = b.reads.modify i (·.update (·.look now)) := by
  unfold look
  cases found : b.loops[i]? with
  | none =>
      have missing : b.reads[i]? = none := by simp [reads, found]
      exact (modify_of_getElem?_none missing _).symm
  | some loop =>
      rw [modify_of_getElem? (getElem?_reads found)]
      dsimp only
      split <;> simp [reads, LogLoop.update]

theorem reads_publish (b : LogBoard) (i : Nat)
    (held : (b.reads[i]?.bind ReadLoop.inHand).isSome = true) :
    (b.publish i).reads = b.reads.modify i ReadLoop.finish := by
  cases found : b.loops[i]? with
  | none => simp [reads, found] at held
  | some loop =>
      rw [getElem?_reads found] at held
      obtain ⟨answer, inHand⟩ := Option.isSome_iff_exists.mp held
      have answered : loop.inHand = some answer := inHand
      have changed : (b.publish i).loops =
          b.loops.modify i fun l => { l with toReadLoop := l.toReadLoop.finish } := by
        simp [publish, found, answered]
      exact reads_modify changed fun _ => rfl

/-- The log monitor, which asks for so many lines. -/
def monitor (maxLines : Nat) : Monitor LogBoard (Except Error (List LogLine)) LogAside where
  empty := .empty maxLines
  reads := reads
  watch := watch
  stop := stop
  fire := fire
  look b i now := (b.look i now).1
  receive := receive
  publish := publish
  aside b
    | .setSource source => { b with source }
    | .read source answer => b.take source answer
  reads_empty := rfl
  reads_watch _ _ _ := by simp [reads, watch, stop, LogLoop.update]
  reads_stop _ := by simp [reads, stop, LogLoop.update]
  reads_fire _ _ := reads_modify rfl fun _ => rfl
  reads_look := reads_look
  reads_receive _ _ _ := reads_modify rfl fun _ => rfl
  reads_publish := reads_publish
  reads_aside _ what := by
    cases what with
    | setSource source => rfl
    | read source answer => cases answer <;> rfl

end LogBoard

/-! ## Executions -/

/-- What may happen next. -/
inductive MonitorEvent (Answer Aside : Type) where
  /-- A loop is started in place of those that run. -/
  | watch (period : Nat)
  | stop
  /-- A loop is asked for a refresh. -/
  | fire (i : Nat)
  /-- A loop is to be asked for a refresh after a delay. -/
  | fireAfter (i delay : Nat)
  /-- One of the delays is over. -/
  | expire (k : Nat)
  | pass (ms : Nat)
  /-- A loop gets its turn. -/
  | look (i : Nat)
  /-- The reply to a loop's read arrives. -/
  | reply (i : Nat) (answer : Answer)
  /-- A loop shows the answer in its hand. -/
  | publish (i : Nat)
  | aside (what : Aside)

/-- No loop is started or gets its turn, and no answer arrives or is shown. -/
def MonitorEvent.isPassive {Answer Aside : Type} : MonitorEvent Answer Aside → Bool
  | .stop | .fire _ | .fireAfter .. | .expire _ | .pass _ | .aside _ => true
  | .watch _ | .look _ | .reply .. | .publish _ => false

/-- An answer arrives or is shown. -/
def MonitorEvent.isOfAnswer {Answer Aside : Type} : MonitorEvent Answer Aside → Bool
  | .reply .. | .publish _ => true
  | .watch _ | .stop | .fire _ | .fireAfter .. | .expire _ | .pass _ | .look _ | .aside _ => false

/-- A monitor, the clock, and the requests that are to be made later: when, and of which loop. -/
structure MonitorExecution (Board : Type) where
  now : Nat
  board : Board
  waits : List (Nat × Nat)

namespace MonitorExecution

variable {Board Answer Aside : Type}

/-- What an event is to the loop at a place. -/
def told (x : MonitorExecution Board) (i : Nat) : MonitorEvent Answer Aside → List RefreshEvent
  | .watch _ | .stop => [.cancel]
  | .fire j => if j = i then [.fire] else []
  | .expire k => if x.waits[k]?.map (·.2) = some i then [.fire] else []
  | .look j => if j = i then [.look x.now] else []
  | .reply j _ => if j = i then [.receive] else []
  | .publish j => if j = i then [.finish] else []
  | .fireAfter .. | .pass _ | .aside _ => []

/-- What the loop at a place is after an event. -/
def turn (x : MonitorExecution Board) (i : Nat) (l : ReadLoop Answer) :
    MonitorEvent Answer Aside → ReadLoop Answer
  | .watch _ | .stop => l.update .cancel
  | .fire j => if j = i then l.update .fire else l
  | .expire k => if x.waits[k]?.map (·.2) = some i then l.update .fire else l
  | .look j => if j = i then l.update (·.look x.now) else l
  | .reply j answer => if j = i then l.receive answer else l
  | .publish j => if j = i then l.finish else l
  | .fireAfter .. | .pass _ | .aside _ => l

/-- The loop that an event starts, if it starts one. -/
def started (x : MonitorExecution Board) : MonitorEvent Answer Aside → List (ReadLoop Answer)
  | .watch period => [.start period x.now]
  | .stop | .fire _ | .fireAfter .. | .expire _ | .pass _ | .look _ | .reply .. | .publish _
  | .aside _ => []

/-- **A loop does what an event tells it.** -/
theorem refresh_turn (x : MonitorExecution Board) (i : Nat) (l : ReadLoop Answer)
    (event : MonitorEvent Answer Aside) :
    (x.turn i l event).refresh = l.refresh.after (x.told i event) := by
  cases event with
  | watch _ | stop | fireAfter _ _ | pass _ | aside _ => rfl
  | fire j | look j | reply j _ | publish j =>
      by_cases itself : j = i
      · simp only [turn, told, itself, if_true]
        rfl
      · simp only [turn, told, itself, if_false]
        rfl
  | expire k =>
      by_cases itself : x.waits[k]?.map (·.2) = some i
      · simp only [turn, told, itself, if_true]
        rfl
      · simp only [turn, told, itself, if_false]
        rfl

end MonitorExecution

namespace Monitor

variable {Board Answer Aside : Type}

/-- The loops, without what they have read. -/
def loops (m : Monitor Board Answer Aside) (b : Board) : List RefreshLoop :=
  (m.reads b).map ReadLoop.refresh

/-- The answer in the hand of a loop. -/
def inHand (m : Monitor Board Answer Aside) (b : Board) (i : Nat) : Option Answer :=
  (m.reads b)[i]?.bind ReadLoop.inHand

/-- The beginning of all executions. -/
def start (m : Monitor Board Answer Aside) : MonitorExecution Board := ⟨0, m.empty, []⟩

/-- The execution after an event, if it can happen. -/
def step? (m : Monitor Board Answer Aside) (x : MonitorExecution Board) :
    MonitorEvent Answer Aside → Option (MonitorExecution Board)
  | .watch period => some { x with board := m.watch x.board period x.now }
  | .stop => some { x with board := m.stop x.board }
  | .fire i => some { x with board := m.fire x.board i }
  | .fireAfter i delay => some { x with waits := x.waits ++ [(x.now + delay, i)] }
  | .expire k =>
    match x.waits[k]? with
    | some (due, i) =>
      if due ≤ x.now then some { x with board := m.fire x.board i, waits := x.waits.eraseIdx k }
      else none
    | none => none
  | .pass ms => some { x with now := x.now + ms }
  | .look i =>
    match (m.loops x.board)[i]? with
    | some loop =>
      if loop.stage = .ready ∨ loop.stage = .parked then
        some { x with board := m.look x.board i x.now }
      else none
    | none => none
  | .reply i answer =>
    match (m.loops x.board)[i]? with
    | some loop =>
      if loop.stage = .refreshing ∧ (m.inHand x.board i).isNone then
        some { x with board := m.receive x.board i answer }
      else none
    | none => none
  | .publish i =>
    if (m.inHand x.board i).isSome then some { x with board := m.publish x.board i } else none
  | .aside what => some { x with board := m.aside x.board what }

/-- The execution after events that happen one after the other. -/
def run? (m : Monitor Board Answer Aside) (x : MonitorExecution Board)
    (events : List (MonitorEvent Answer Aside)) : Option (MonitorExecution Board) :=
  runFrom? m.step? x events

/-- What the events of a run are to the loop at a place. -/
def heard (m : Monitor Board Answer Aside) (i : Nat) :
    MonitorExecution Board → List (MonitorEvent Answer Aside) → List RefreshEvent
  | _, [] => []
  | x, event :: rest =>
    x.told i event ++
      match m.step? x event with
      | some y => heard m i y rest
      | none => []

variable {m : Monitor Board Answer Aside} {x y : MonitorExecution Board}
variable {event : MonitorEvent Answer Aside} {events later : List (MonitorEvent Answer Aside)}
variable {i : Nat} {l : RefreshLoop} {r : ReadLoop Answer}

/-! ## What an event does -/

theorem getElem?_loops {b : Board} (found : (m.loops b)[i]? = some l) :
    ∃ r, (m.reads b)[i]? = some r ∧ r.refresh = l := by
  rwa [loops, List.getElem?_map, Option.map_eq_some_iff] at found

/-- A delay that is over has the loop asked, and is forgotten. -/
theorem step?_expire {k : Nat} (step : m.step? x (.expire k) = some y) :
    ∃ due i, x.waits[k]? = some (due, i) ∧ due ≤ x.now ∧
      y = { x with board := m.fire x.board i, waits := x.waits.eraseIdx k } := by
  simp only [step?] at step
  split at step
  · next due i wait =>
    split at step
    · next overdue => exact ⟨due, i, wait, overdue, (Option.some.inj step).symm⟩
    · cases step
  · cases step

/-- Only a loop that is about to look, or parked, gets a turn. -/
theorem step?_look (step : m.step? x (.look i) = some y) :
    (∃ r, (m.reads x.board)[i]? = some r ∧ r.refresh.HasTurn) ∧
      y = { x with board := m.look x.board i x.now } := by
  simp only [step?] at step
  split at step
  · next loop found =>
    obtain ⟨r, there, rfl⟩ := getElem?_loops found
    split at step
    · next turn => exact ⟨⟨r, there, turn⟩, (Option.some.inj step).symm⟩
    · cases step
  · cases step

/-- Only a loop that refreshes, and has no answer yet, gets a reply. -/
theorem step?_reply {answer : Answer} (step : m.step? x (.reply i answer) = some y) :
    (∃ r, (m.reads x.board)[i]? = some r ∧ r.refresh.stage = .refreshing ∧ r.inHand = none) ∧
      y = { x with board := m.receive x.board i answer } := by
  simp only [step?] at step
  split at step
  · next loop found =>
    obtain ⟨r, there, rfl⟩ := getElem?_loops found
    split at step
    · next waiting =>
      have empty : r.inHand = none := by simpa [inHand, there] using waiting.2
      exact ⟨⟨r, there, waiting.1, empty⟩, (Option.some.inj step).symm⟩
    · cases step
  · cases step

/-- Only a loop that has an answer in its hand shows it. -/
theorem step?_publish (step : m.step? x (.publish i) = some y) :
    (∃ answer, m.inHand x.board i = some answer) ∧
      y = { x with board := m.publish x.board i } := by
  simp only [step?] at step
  split at step
  · next held => exact ⟨Option.isSome_iff_exists.mp held, (Option.some.inj step).symm⟩
  · cases step

/-- **What an event does to the loops**: each has its turn, and at most one is started. -/
theorem reads_step (step : m.step? x event = some y) :
    m.reads y.board =
      (m.reads x.board).mapIdx (fun i r => x.turn i r event) ++ x.started event := by
  cases event with
  | watch period =>
      obtain rfl := Option.some.inj step
      rw [m.reads_watch, map_eq_mapIdx]
      rfl
  | stop =>
      obtain rfl := Option.some.inj step
      rw [m.reads_stop, map_eq_mapIdx]
      exact (List.append_nil _).symm
  | fire j =>
      obtain rfl := Option.some.inj step
      rw [m.reads_fire, modify_eq_mapIdx]
      exact (List.append_nil _).symm
  | fireAfter j delay | pass ms =>
      obtain rfl := Option.some.inj step
      exact (eq_mapIdx_self _).trans (List.append_nil _).symm
  | aside what =>
      obtain rfl := Option.some.inj step
      rw [m.reads_aside]
      exact (eq_mapIdx_self _).trans (List.append_nil _).symm
  | expire k =>
      obtain ⟨due, j, wait, -, rfl⟩ := step?_expire step
      rw [m.reads_fire, modify_eq_mapIdx]
      simp [MonitorExecution.turn, MonitorExecution.started, wait]
  | look j =>
      obtain ⟨-, rfl⟩ := step?_look step
      rw [m.reads_look, modify_eq_mapIdx]
      exact (List.append_nil _).symm
  | reply j answer =>
      obtain ⟨-, rfl⟩ := step?_reply step
      rw [m.reads_receive, modify_eq_mapIdx]
      exact (List.append_nil _).symm
  | publish j =>
      obtain ⟨held, rfl⟩ := step?_publish step
      rw [m.reads_publish _ _ (Option.isSome_iff_exists.mpr held), modify_eq_mapIdx]
      exact (List.append_nil _).symm

theorem getElem?_reads_step (step : m.step? x event = some y)
    (found : (m.reads x.board)[i]? = some r) :
    (m.reads y.board)[i]? = some (x.turn i r event) := by
  have inside : i < ((m.reads x.board).mapIdx fun i r => x.turn i r event).length := by
    rw [List.length_mapIdx]
    exact (List.getElem?_eq_some_iff.mp found).1
  rw [reads_step step, List.getElem?_append_left inside, List.getElem?_mapIdx, found]
  rfl

/-- A loop has had its turn, or was just started. -/
theorem of_getElem?_reads_step (step : m.step? x event = some y)
    (found : (m.reads y.board)[i]? = some r) :
    (∃ before, (m.reads x.board)[i]? = some before ∧ r = x.turn i before event) ∨
      r ∈ x.started event := by
  rw [reads_step step, List.getElem?_append] at found
  split at found
  · rw [List.getElem?_mapIdx, Option.map_eq_some_iff] at found
    obtain ⟨before, there, rfl⟩ := found
    exact Or.inl ⟨before, there, rfl⟩
  · exact Or.inr (List.mem_of_getElem? found)

/-- **Each loop does what it is told by an event.** -/
theorem getElem?_step (step : m.step? x event = some y) (found : (m.loops x.board)[i]? = some l) :
    (m.loops y.board)[i]? = some (l.after (x.told i event)) := by
  obtain ⟨r, there, rfl⟩ := getElem?_loops found
  rw [loops, List.getElem?_map, getElem?_reads_step step there, ← x.refresh_turn i r event]
  rfl

/-- Only `watch` starts a loop. -/
theorem eq_start_of_started (fresh : r ∈ x.started event) :
    ∃ period, r = .start period x.now := by
  cases event with
  | watch period => exact ⟨period, List.mem_singleton.mp fresh⟩
  | stop | fire _ | fireAfter _ _ | expire _ | pass _ | look _ | reply _ _ | publish _ | aside _ =>
      cases fresh

theorem started_eq_nil (unwatched : ∀ period, event ≠ .watch period) : x.started event = [] := by
  cases event with
  | watch period => exact absurd rfl (unwatched period)
  | stop | fire _ | fireAfter _ _ | expire _ | pass _ | look _ | reply _ _ | publish _ | aside _ =>
      rfl

/-- A loop has done what it was told, or was just started. -/
theorem of_getElem?_step (step : m.step? x event = some y)
    (found : (m.loops y.board)[i]? = some l) :
    (∃ before, (m.loops x.board)[i]? = some before ∧ l = before.after (x.told i event)) ∨
      ∃ fresh ∈ x.started event, l = fresh.refresh := by
  obtain ⟨r, there, rfl⟩ := getElem?_loops found
  rcases of_getElem?_reads_step step there with ⟨before, earlier, rfl⟩ | fresh
  · exact Or.inl ⟨before.refresh, by simp [loops, earlier], x.refresh_turn i before event⟩
  · exact Or.inr ⟨r, fresh, rfl⟩

/-! ## Runs -/

/-- **A loop does what it hears**, one thing after the other. -/
theorem getElem?_after (run : m.run? x later = some y)
    (found : (m.loops x.board)[i]? = some l) :
    (m.loops y.board)[i]? = some (l.after (m.heard i x later)) := by
  induction later generalizing x l with
  | nil =>
      obtain rfl := Option.some.inj run
      exact found
  | cons event rest ih =>
      rw [run?, runFrom?_cons, Option.bind_eq_some_iff] at run
      obtain ⟨z, step, goesOn⟩ := run
      rw [heard, step, RefreshLoop.after_append]
      exact ih goesOn (getElem?_step step found)

/-- All loops are sound at all times. -/
theorem sound_of_run? (run : m.run? m.start events = some x)
    (found : (m.loops x.board)[i]? = some l) : l.Sound := by
  refine runFrom?_induction (fun _ x => ∀ (i : Nat) l, (m.loops x.board)[i]? = some l → l.Sound)
    ?_ ?_ run i l found
  · intro i l found
    simp [start, loops, m.reads_empty] at found
  · intro _ x event y _ sound step i l found
    rcases of_getElem?_step step found with ⟨before, there, rfl⟩ | ⟨fresh, begins, rfl⟩
    · exact (sound i before there).after _
    · obtain ⟨period, rfl⟩ := eq_start_of_started begins
      exact RefreshLoop.sound_start period x.now

/-- A request that is to be made later stands until it is made. -/
theorem mem_waits_of_step {due : Nat} (step : m.step? x event = some y)
    (stands : (due, i) ∈ x.waits) : (due, i) ∈ y.waits ∨ .fire ∈ x.told i event := by
  cases event with
  | watch period | stop | fire j | pass ms | aside what =>
      obtain rfl := Option.some.inj step
      exact Or.inl stands
  | fireAfter j delay =>
      obtain rfl := Option.some.inj step
      exact Or.inl (List.mem_append_left _ stands)
  | look j =>
      obtain ⟨-, rfl⟩ := step?_look step
      exact Or.inl stands
  | reply j answer =>
      obtain ⟨-, rfl⟩ := step?_reply step
      exact Or.inl stands
  | publish j =>
      obtain ⟨-, rfl⟩ := step?_publish step
      exact Or.inl stands
  | expire k =>
      obtain ⟨due, j, wait, -, rfl⟩ := step?_expire step
      by_cases itself : j = i
      · exact Or.inr (by simp [MonitorExecution.told, wait, itself])
      · -- The request that is made is another one, and nothing else is taken away.
        obtain ⟨place, there⟩ := List.getElem?_of_mem stands
        have other : place ≠ k := by
          rintro rfl
          rw [wait] at there
          exact itself (congrArg Prod.snd (Option.some.inj there))
        exact Or.inl (List.mem_eraseIdx_iff_getElem?.mpr ⟨place, other, there⟩)

/-- A request that is to be made later still stands after a run, or was made. -/
theorem mem_waits_of_run? {due : Nat} (run : m.run? x later = some y)
    (stands : (due, i) ∈ x.waits) : (due, i) ∈ y.waits ∨ .fire ∈ m.heard i x later := by
  induction later generalizing x with
  | nil =>
      obtain rfl := Option.some.inj run
      exact Or.inl stands
  | cons event rest ih =>
      rw [run?, runFrom?_cons, Option.bind_eq_some_iff] at run
      obtain ⟨z, step, goesOn⟩ := run
      rw [heard, step]
      rcases mem_waits_of_step step stands with still | made
      · exact (ih goesOn still).imp_right (List.mem_append_right _)
      · exact Or.inr (List.mem_append_left _ made)

/-- **No request is lost.**  For both monitors, after every run and for every loop, whatever happens
later: the loop does what it hears.  A request that is to be made later stands until it is made.
At rest the loop has no request pending.  Of its refreshes as many have begun as have ended, but for
the one in flight.  Unless the loop is told to stop, each request is answered by a refresh that
begins after it: it has begun, or begins when the loop gets its next turn, and has begun when the
loop is at rest.  Requests that are made during one refresh are answered by exactly one that is
begun on request, which has begun or is still pending. -/
theorem no_request_lost (run : m.run? m.start events = some x)
    (found : (m.loops x.board)[i]? = some l) (goesOn : m.run? x later = some y) :
    let history := m.heard i x later
    (m.loops y.board)[i]? = some (l.after history) ∧
    (∀ due, (due, i) ∈ x.waits → (due, i) ∈ y.waits ∨ .fire ∈ history) ∧
    ((l.after history).IsResting → (l.after history).isPending = false) ∧
    l.isBusy.toNat + l.count RefreshLoop.begins history =
      l.count RefreshLoop.ends history + (l.after history).isBusy.toNat ∧
    (l.isLive = true → .cancel ∉ history →
      (∀ before rest, history = before ++ .fire :: rest →
        (0 < (l.after (before ++ [.fire])).count RefreshLoop.begins rest ∨
          ∀ now, ((l.after history).finish.look now).isBusy = true) ∧
        ((l.after history).IsResting →
          0 < (l.after (before ++ [.fire])).count RefreshLoop.begins rest)) ∧
      (∀ before during rest, history = before ++ during ++ .finish :: rest →
        (l.after before).isBusy = true → .finish ∉ during → .fire ∈ during → .fire ∉ rest →
        (l.after (before ++ during ++ [.finish])).count RefreshLoop.begunOnRequest rest +
          (l.after history).pending = 1 ∧
        ((l.after history).IsResting →
          (l.after (before ++ during ++ [.finish])).count RefreshLoop.begunOnRequest rest =
            1))) := by
  intro history
  have sound := sound_of_run? run found
  refine ⟨getElem?_after goesOn found, fun due stands => mem_waits_of_run? goesOn stands,
    (sound.after history).not_isPending, l.count_begins history, fun live unstopped => ⟨?_, ?_⟩⟩
  · intro before rest split
    rw [split] at unstopped ⊢
    exact sound.answered live unstopped
  · intro before during rest split busy inFlight asked quiet
    rw [split] at unstopped ⊢
    exact sound.coalesced live unstopped busy inFlight asked quiet

end Monitor

/-! ## A short run -/

/-- While it reads, a status monitor is asked for a refresh at once and for one 10 ms later; then
its reads end, and it gets its turn after each. -/
def askedTwice : List (MonitorEvent (Except Error ServiceStatus) (Except Error ServiceStatus)) :=
  [.fire 0, .fireAfter 0 10, .pass 10, .expire 0, .reply 0 (.error .unreachable), .publish 0,
    .look 0, .reply 0 (.error .unreachable), .publish 0, .look 0]

/-- What its loop hears of that. -/
def askedTwiceHeard : List RefreshEvent :=
  [.fire, .fire, .receive, .finish, .look 10, .receive, .finish, .look 10]

/-- The monitor is at rest in the end, and has read once more. -/
theorem Monitor.no_request_lost_askedTwice :
    ∃ x l y, StatusBoard.monitor.run? StatusBoard.monitor.start [.watch 1000, .look 0] = some x ∧
      (StatusBoard.monitor.loops x.board)[0]? = some l ∧ l.isBusy = true ∧
      StatusBoard.monitor.run? x askedTwice = some y ∧
      StatusBoard.monitor.heard 0 x askedTwice = askedTwiceHeard ∧
      (l.after askedTwiceHeard).IsResting ∧
      (l.after [.fire, .fire, .receive, .finish]).count RefreshLoop.begunOnRequest
        [.look 10, .receive, .finish, .look 10] = 1 := by
  obtain ⟨x, l, y, run, found, live, busy, goesOn, history, resting⟩ :
      ∃ x l y, StatusBoard.monitor.run? StatusBoard.monitor.start [.watch 1000, .look 0] = some x ∧
        (StatusBoard.monitor.loops x.board)[0]? = some l ∧ l.isLive = true ∧ l.isBusy = true ∧
        StatusBoard.monitor.run? x askedTwice = some y ∧
        StatusBoard.monitor.heard 0 x askedTwice = askedTwiceHeard ∧
        (l.after askedTwiceHeard).IsResting :=
    ⟨_, _, _, rfl, rfl, rfl, rfl, rfl, rfl, ⟨rfl, rfl⟩⟩
  refine ⟨x, l, y, run, found, busy, goesOn, history, resting, ?_⟩
  have lost := Monitor.no_request_lost run found goesOn
  rw [history] at lost
  obtain ⟨-, coalesce⟩ := lost.2.2.2.2 live (by decide)
  exact (coalesce [] [.fire, .fire, .receive] [.look 10, .receive, .finish, .look 10] rfl busy
    (by decide) (by decide) (by decide)).2 resting

end StrategyDesk
