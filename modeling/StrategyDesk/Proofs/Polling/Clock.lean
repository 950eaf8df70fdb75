import StrategyDesk.Proofs.Polling.Pace
import StrategyDesk.Proofs.Runs

/-!
# Polling loops and the clock

Whoever owns loops starts them, tells them to stop, and lets time pass. Loops serve their ticks when
they get to it, and ask at once; their questions and the moments of these are recorded.

## Main Definitions

* `Pollers` — an owner of loops
* `Clocked`, `Pollers.clockedStep?`, `Pollers.clockedRun?` — an owner, the clock and the records
* `Pollers.isPrompt` — ticks are served when they fall due, and no reply takes longer than a period

## Main Statements

* `Pollers.moved_of_clockedStep?` — each loop makes one of its moves in an event, or is started
* `Pollers.paced_of_run?`, `Pollers.punctual_of_run?` — all loops keep their pace, and those that
  nothing holds up their schedules
* `Pollers.pace_of_run?` — both, for an owner who begins with no loops
-/

namespace StrategyDesk

variable {State Event Subject Report : Type}

/-! ## An owner of loops, and the clock -/

/-- What may become of loops when none of them takes a step: each may be told to stop, and a new one
may be started after them. -/
structure Followed (fresh : PollLoop Subject Report → Prop)
    (before after : List (PollLoop Subject Report)) : Prop where
  length_le : before.length ≤ after.length
  origin : ∀ (i : Nat) l, after[i]? = some l →
    (∃ old, before[i]? = some old ∧ (l = old ∨ l = old.cancel)) ∨ i = before.length ∧ fresh l

namespace Followed

variable {fresh : PollLoop Subject Report → Prop} {loops : PollLoops Subject Report}

theorem same (before : List (PollLoop Subject Report)) : Followed fresh before before :=
  ⟨Nat.le_refl _, fun _ l found => Or.inl ⟨l, found, Or.inl rfl⟩⟩

theorem release : Followed fresh loops.loops loops.release.loops where
  length_le := Nat.le_of_eq loops.length_release.symm
  origin _ _ found := Or.inl (loops.getElem?_release_eq_some found)

theorem start {l : PollLoop Subject Report} (new : fresh l) :
    Followed fresh loops.loops (loops.start l).loops := by
  refine ⟨by rw [loops.length_start]; omega, fun i m found => ?_⟩
  have inside : i < (loops.start l).loops.length := (List.getElem?_eq_some_iff.mp found).1
  rw [loops.length_start] at inside
  by_cases earlier : i < loops.loops.length
  · rw [loops.getElem?_start_lt l earlier] at found
    exact Or.inl (loops.getElem?_release_eq_some found)
  · obtain rfl : i = loops.loops.length := by omega
    rw [loops.getElem?_start_last l] at found
    obtain rfl := Option.some.inj found
    exact Or.inr ⟨rfl, new⟩

end Followed

/-- Someone who owns polling loops. -/
structure Pollers (State Event Subject Report : Type) where
  loops : State → List (PollLoop Subject Report)
  /-- The period of the loops that are started. -/
  period : State → Nat
  /-- The ticker of a loop that is started. -/
  first : (period now : Nat) → Ticker
  /-- How many periods after its start a loop asks first. -/
  headStart : Nat
  step? : State → Event → Option State
  enter : PollLoop Subject Report → PollLoop Subject Report
  /-- The loop that takes a step by an event. -/
  told : Event → Option (Nat × LoopEvent Report)
  /-- A question goes to the engine. -/
  asks : State → Event → Bool
  /-- The time that is read off the clock in an event. -/
  reads : Event → Option Nat
  enters : PollLoop.Enters enter
  period_first : ∀ period now, (first period now).period = period
  due_first : ∀ period now, (first period now).due = now + headStart * period
  period_step : ∀ {x y event}, step? x event = some y → period y = period x
  reads_serve : ∀ {event i now}, told event = some (i, .serve now) → reads event = some now
  asks_iff : ∀ {x event i l}, told event = some (i, .ask) → (loops x)[i]? = some l →
    (asks x event = true ↔ l.ask.2 = true)
  loops_told : ∀ {x y event i what}, step? x event = some y → told event = some (i, what) →
    ∃ l, (loops x)[i]? = some l ∧ what.fits l.stage = true ∧
      loops y = (loops x).modify i (·.advance enter what)
  loops_other : ∀ {x y event}, step? x event = some y → told event = none →
    Followed (fun l => ∃ subject now, reads event = some now ∧
      l = ⟨subject, first (period x) now, .first (period x), false⟩) (loops x) (loops y)

/-- An owner of loops at some time, and what is recorded of each loop. -/
structure Clocked (State : Type) where
  now : Nat
  state : State
  records : List PollRecord

/-- What may happen while the clock runs. -/
inductive ClockedEvent (Event : Type) where
  | pass (ms : Nat)
  | event (what : Event)

namespace Pollers

variable (p : Pollers State Event Subject Report)

/-- A loop is about to ask, which it does at once. -/
def isAboutToAsk (x : Clocked State) : Bool :=
  (p.loops x.state).any fun l => !l.cancelled && l.stage.isTicked

/-- An event reads the time off the clock, and a tick is not served before it falls due. -/
def isOnTime (x : Clocked State) (event : Event) : Bool :=
  (p.reads event).all (· == x.now) &&
    match p.told event with
    | some (i, .serve _) =>
      (p.loops x.state)[i]?.all fun l => l.cancelled || decide (l.ticker.due ≤ x.now)
    | some (_, .ask) | some (_, .receive _) | some (_, .publish) | none => true

/-- What is recorded of the loops that there were before an event. -/
def noted (x : Clocked State) (event : Event) : List PollRecord :=
  match p.told event with
  | some (i, .ask) =>
    if p.asks x.state event then
      x.records.modify i fun r => { r with asked := r.asked ++ [x.now] }
    else x.records
  | some (i, .receive _) => x.records.modify i fun r => { r with ended := r.ended + 1 }
  | some (_, .serve _) | some (_, .publish) | none => x.records

/-- The owner, the clock and the records after an event, if it can happen. -/
def clockedStep? (x : Clocked State) : ClockedEvent Event → Option (Clocked State)
  | .pass ms => if p.isAboutToAsk x then none else some { x with now := x.now + ms }
  | .event what =>
    if p.isOnTime x what then
      (p.step? x.state what).map fun state =>
        { x with
          state
          records := p.noted x what ++
            List.replicate ((p.loops state).length - x.records.length) ⟨x.now, [], 0⟩ }
    else none

/-- The owner, the clock and the records after events that happen one after the other. -/
def clockedRun? (x : Clocked State) (events : List (ClockedEvent Event)) :
    Option (Clocked State) :=
  runFrom? p.clockedStep? x events

/-- No loop is held up when time passes. -/
def letsPass (x : Clocked State) (ms : Nat) : Bool :=
  ((p.loops x.state).zip x.records).all fun (l, r) =>
    !l.isLive || l.isOnTime (p.period x.state) x.now ms r

/-- In the whole of a run time passes only when it holds up no loop. -/
def isPrompt : Clocked State → List (ClockedEvent Event) → Bool
  | _, [] => true
  | x, event :: rest =>
    (match event with
      | .pass ms => p.letsPass x ms
      | .event _ => true) &&
    match p.clockedStep? x event with
    | some y => isPrompt y rest
    | none => true

/-! ## What an event does to the loops and their records -/

variable {p} {x y : Clocked State} {event : Event} {i : Nat} {what : LoopEvent Report}
variable {l : PollLoop Subject Report} {r : PollRecord}

/-- The record of a loop that takes a step. -/
def recorded (now : Nat) (l : PollLoop Subject Report) (r : PollRecord) :
    LoopEvent Report → PollRecord
  | .ask => if l.ask.2 then { r with asked := r.asked ++ [now] } else r
  | .receive _ => { r with ended := r.ended + 1 }
  | .serve _ | .publish => r

theorem noted_of_told (told : p.told event = some (i, what))
    (found : (p.loops x.state)[i]? = some l) :
    p.noted x event = x.records.modify i fun r => recorded x.now l r what := by
  unfold noted
  rw [told]
  cases what with
  | serve now | publish => exact (List.modify_id ..).symm
  | receive answer => rfl
  | ask =>
      have asks := p.asks_iff told found
      cases asked : l.ask.2 with
      | true =>
          rw [asked] at asks
          simp [asks.mpr rfl, recorded, asked]
      | false =>
          rw [asked] at asks
          have silent : p.asks x.state event = false := by
            by_contra speaks
            exact absurd (asks.mp (by simpa using speaks)) nofun
          simp only [silent, recorded, asked]
          exact (List.modify_id ..).symm

/-- A loop that takes a step makes one of its moves. -/
theorem moves_of_told (told : p.told event = some (i, what)) (onTime : p.isOnTime x event = true)
    (found : (p.loops x.state)[i]? = some l) (fits : what.fits l.stage = true) :
    l.Moves p.enter x.now r (l.advance p.enter what) (recorded x.now l r what) := by
  cases what with
  | serve now =>
      have reads := p.reads_serve told
      simp only [isOnTime, reads, told, found, Option.all_some, Bool.and_eq_true, beq_iff_eq,
        Bool.or_eq_true, decide_eq_true_eq] at onTime
      obtain ⟨rfl, due⟩ := onTime
      refine .serves ?_ fun notCancelled => due.resolve_left (by simp [notCancelled])
      cases stage : l.stage with
      | waiting => rfl
      | ticked | asking | holding _ | returned => simp [LoopEvent.fits, stage] at fits
  | ask =>
      refine .asks ?_
      cases stage : l.stage with
      | ticked => rfl
      | waiting | asking | holding _ | returned => simp [LoopEvent.fits, stage] at fits
  | receive answer =>
      refine .receives answer ?_
      cases stage : l.stage with
      | asking => rfl
      | waiting | ticked | holding _ | returned => simp [LoopEvent.fits, stage] at fits
  | publish =>
      cases stage : l.stage with
      | holding report => exact .publishes stage
      | waiting | ticked | asking | returned => simp [LoopEvent.fits, stage] at fits

/-- The loops and the records after an event: each loop has made a move, or was just started. -/
structure Moved (p : Pollers State Event Subject Report) (x y : Clocked State) : Prop where
  now : y.now = x.now
  period : p.period y.state = p.period x.state
  aligned : y.records.length = (p.loops y.state).length
  moves : ∀ (i : Nat) m s, (p.loops y.state)[i]? = some m → y.records[i]? = some s →
    (∃ l r, (p.loops x.state)[i]? = some l ∧ x.records[i]? = some r ∧
      l.Moves p.enter x.now r m s) ∨
    ∃ subject, m = ⟨subject, p.first (p.period x.state) x.now, .first (p.period x.state), false⟩ ∧
      s = ⟨x.now, [], 0⟩

theorem moved_of_told {state : State} (owner : p.step? x.state event = some state)
    (told : p.told event = some (i, what)) (onTime : p.isOnTime x event = true)
    (aligned : x.records.length = (p.loops x.state).length) :
    p.Moved x { x with state, records := p.noted x event } := by
  obtain ⟨l, found, fits, loops⟩ := p.loops_told owner told
  have records := noted_of_told told found
  constructor
  case now => rfl
  case period => exact p.period_step owner
  case aligned =>
    dsimp only
    rw [records, loops, List.length_modify, List.length_modify, aligned]
  case moves =>
    intro k m s moved noted
    dsimp only at moved noted
    rw [loops, List.getElem?_modify] at moved
    rw [records, List.getElem?_modify] at noted
    obtain ⟨old, there, rfl⟩ := Option.map_eq_some_iff.mp moved
    obtain ⟨r, here, rfl⟩ := Option.map_eq_some_iff.mp noted
    refine Or.inl ⟨old, r, there, here, ?_⟩
    by_cases itself : i = k
    · subst itself
      obtain rfl : l = old := Option.some.inj (found.symm.trans there)
      simp only [if_true]
      exact moves_of_told told onTime found fits
    · simp only [if_neg itself]
      exact .stays

theorem moved_of_other {state : State} (owner : p.step? x.state event = some state)
    (told : p.told event = none) (onTime : p.isOnTime x event = true)
    (aligned : x.records.length = (p.loops x.state).length) :
    p.Moved x { x with
      state
      records := x.records ++
        List.replicate ((p.loops state).length - x.records.length) ⟨x.now, [], 0⟩ } := by
  obtain ⟨length, origin⟩ := p.loops_other owner told
  constructor
  case now => rfl
  case period => exact p.period_step owner
  case aligned =>
    dsimp only
    rw [List.length_append, List.length_replicate]
    omega
  case moves =>
    intro k m s found noted
    dsimp only at found noted
    rcases origin k m found with ⟨old, there, same⟩ | ⟨rfl, subject, now, reads, rfl⟩
    · have inside : k < x.records.length := by
        rw [aligned]
        exact (List.getElem?_eq_some_iff.mp there).1
      rw [List.getElem?_append_left inside] at noted
      refine Or.inl ⟨old, s, there, noted, ?_⟩
      rcases same with rfl | rfl
      · exact .stays
      · exact .cancelled
    · simp only [isOnTime, reads, Option.all_some, Bool.and_eq_true, beq_iff_eq] at onTime
      obtain ⟨rfl, -⟩ := onTime
      rw [List.getElem?_append_right (by omega), List.getElem?_replicate] at noted
      refine Or.inr ⟨subject, rfl, ?_⟩
      split at noted
      · exact (Option.some.inj noted).symm
      · cases noted

/-- **Each loop makes one of its moves in an event**, or is started by it. -/
theorem moved_of_clockedStep? (step : p.clockedStep? x (.event event) = some y)
    (aligned : x.records.length = (p.loops x.state).length) : p.Moved x y := by
  simp only [clockedStep?] at step
  split at step
  case isFalse => cases step
  case isTrue onTime =>
    obtain ⟨state, owner, rfl⟩ := Option.map_eq_some_iff.mp step
    cases told : p.told event with
    | none =>
        have same : p.noted x event = x.records := by rw [noted, told]
        rw [same]
        exact moved_of_other owner told onTime aligned
    | some place =>
        obtain ⟨i, what⟩ := place
        have moved := moved_of_told owner told onTime aligned
        -- No loop is started when one takes a step.
        have length : (p.loops state).length - x.records.length = 0 := by
          obtain ⟨l, -, -, loops⟩ := p.loops_told owner told
          rw [loops, List.length_modify, aligned]
          omega
        rw [length, List.replicate_zero, List.append_nil]
        exact moved

theorem eq_of_pass {ms : Nat} (step : p.clockedStep? x (.pass ms) = some y) :
    p.isAboutToAsk x = false ∧ y = { x with now := x.now + ms } := by
  simp only [clockedStep?] at step
  split at step
  · cases step
  · next still => exact ⟨by simpa using still, (Option.some.inj step).symm⟩

/-! ## Runs -/

/-- All loops keep their pace. -/
structure Paced (p : Pollers State Event Subject Report) (period : Nat) (x : Clocked State) :
    Prop where
  ofPeriod : p.period x.state = period
  aligned : x.records.length = (p.loops x.state).length
  paced : ∀ (i : Nat) l r, (p.loops x.state)[i]? = some l → x.records[i]? = some r →
    l.Paced period x.now r

/-- All loops keep their schedules. -/
def Punctual (p : Pollers State Event Subject Report) (period : Nat) (x : Clocked State) : Prop :=
  ∀ (i : Nat) l r, (p.loops x.state)[i]? = some l → x.records[i]? = some r →
    l.Punctual period p.headStart x.now r

variable {period : Nat} {events : List (ClockedEvent Event)}

theorem paced_first (period now : Nat) (subject : Subject) :
    PollLoop.Paced period now
      (⟨subject, p.first period now, .first period, false⟩ : PollLoop Subject Report)
      ⟨now, [], 0⟩ where
  spaced := .nil
  next := nofun
  ticked ticked := by
    cases period <;> cases ticked
  single := by cases period <;> rfl
  ofPeriod := p.period_first period now

theorem punctual_first (period now : Nat) (subject : Subject) :
    PollLoop.Punctual period p.headStart now
      (⟨subject, p.first period now, .first period, false⟩ : PollLoop Subject Report)
      ⟨now, [], 0⟩ where
  kept := nofun
  due _ _ := by
    dsimp only
    rw [p.due_first, List.length_nil, Nat.zero_add]
    exact ⟨Nat.le_add_right .., rfl⟩
  ticked _ ticked := by
    cases period <;> cases ticked

theorem Paced.step {event : ClockedEvent Event} (paced : p.Paced period x)
    (step : p.clockedStep? x event = some y) : p.Paced period y := by
  cases event with
  | pass ms =>
      obtain ⟨still, rfl⟩ := eq_of_pass step
      refine ⟨paced.ofPeriod, paced.aligned, fun i l r found here => ?_⟩
      refine (paced.paced i l r found here).pass ms fun notCancelled => ?_
      have quiet := List.any_eq_false.mp still l (List.mem_of_getElem? found)
      simpa [notCancelled] using quiet
  | event what =>
      have moved := moved_of_clockedStep? step paced.aligned
      refine ⟨moved.period.trans paced.ofPeriod, moved.aligned, fun i m s found here => ?_⟩
      rw [moved.now]
      rcases moved.moves i m s found here with ⟨l, r, there, known, moves⟩ | ⟨subject, rfl, rfl⟩
      · exact moves.paced p.enters (paced.paced i l r there known)
      · rw [paced.ofPeriod]
        exact paced_first period x.now subject

theorem isOnTime_of_letsPass {ms : Nat} (lets : p.letsPass x ms = true)
    (found : (p.loops x.state)[i]? = some l) (here : x.records[i]? = some r)
    (live : l.isLive = true) : l.isOnTime (p.period x.state) x.now ms r = true := by
  have together : ((p.loops x.state).zip x.records)[i]? = some (l, r) :=
    List.getElem?_zip_eq_some.mpr ⟨found, here⟩
  simpa [live] using List.all_eq_true.mp lets (l, r) (List.mem_of_getElem? together)

theorem Punctual.step {event : ClockedEvent Event} (punctual : p.Punctual period x)
    (paced : p.Paced period x) (prompt : ∀ ms, event = .pass ms → p.letsPass x ms = true)
    (step : p.clockedStep? x event = some y) : p.Punctual period y := by
  cases event with
  | pass ms =>
      obtain ⟨-, rfl⟩ := eq_of_pass step
      intro i l r found here
      have onTime := isOnTime_of_letsPass (prompt ms rfl) found here
      rw [paced.ofPeriod] at onTime
      exact (punctual i l r found here).pass (paced.paced i l r found here) onTime
  | event what =>
      have moved := moved_of_clockedStep? step paced.aligned
      intro i m s found here
      rw [moved.now]
      rcases moved.moves i m s found here with ⟨l, r, there, known, moves⟩ | ⟨subject, rfl, rfl⟩
      · have ofPeriod := (paced.paced i l r there known).ofPeriod
        exact moves.punctual p.enters ofPeriod (punctual i l r there known)
      · rw [paced.ofPeriod]
        exact punctual_first period x.now subject

/-- **All loops keep their pace** at all times. -/
theorem paced_of_run? (run : p.clockedRun? x events = some y) (paced : p.Paced period x) :
    p.Paced period y :=
  runFrom?_induction (fun _ => p.Paced period) paced
    (fun _ _ _ _ _ paced step => paced.step step) run

/-- **Loops that nothing holds up keep their schedules** at all times. -/
theorem punctual_of_run? (run : p.clockedRun? x events = some y) (paced : p.Paced period x)
    (punctual : p.Punctual period x) (prompt : p.isPrompt x events = true) :
    p.Punctual period y := by
  induction events generalizing x with
  | nil =>
      obtain rfl := Option.some.inj run
      exact punctual
  | cons event rest ih =>
      rw [clockedRun?, runFrom?_cons, Option.bind_eq_some_iff] at run
      obtain ⟨z, step, goesOn⟩ := run
      simp only [isPrompt, step, Bool.and_eq_true] at prompt
      obtain ⟨lets, later⟩ := prompt
      refine ih goesOn (paced.step step) (punctual.step paced ?_ step) later
      rintro ms rfl
      exact lets

/-- An owner of no loops, of which nothing is recorded. -/
theorem paced_of_empty (empty : p.loops x.state = []) (unrecorded : x.records = [])
    (ofPeriod : p.period x.state = period) : p.Paced period x where
  ofPeriod := ofPeriod
  aligned := by simp [empty, unrecorded]
  paced i l r found := by
    rw [empty] at found
    cases found

/-- The pace of every loop of an owner who begins with none. -/
theorem pace_of_run? (run : p.clockedRun? x events = some y) (empty : p.loops x.state = [])
    (unrecorded : x.records = []) (ofPeriod : p.period x.state = period)
    (found : (p.loops y.state)[i]? = some l) :
    ∃ r, y.records[i]? = some r ∧ r.asked.length = r.ended + l.stage.isAsking.toNat ∧
      (r.asked.IsChain fun a b => a + period ≤ b + Ticker.grace) ∧
      (p.isPrompt x events = true →
        (∀ (k a : Nat), r.asked[k]? = some a → a = r.started + (k + p.headStart) * period) ∧
        (l.isLive = true → ∀ k, r.started + (k + p.headStart) * period < y.now →
          k < r.asked.length)) := by
  have begins := paced_of_empty empty unrecorded ofPeriod
  have paced := paced_of_run? run begins
  have inside : i < y.records.length := by
    rw [paced.aligned]
    exact (List.getElem?_eq_some_iff.mp found).1
  have here := List.getElem?_eq_getElem inside
  obtain ⟨spaced, -, -, single, -⟩ := paced.paced i l _ found here
  refine ⟨_, here, single, spaced, fun prompt => ?_⟩
  have onTime : p.Punctual period x := by
    intro i l r found
    rw [empty] at found
    cases found
  have punctual := punctual_of_run? run begins onTime prompt i l _ found here
  exact ⟨punctual.kept, fun live k due => punctual.lt_length live due⟩

end Pollers

end StrategyDesk
