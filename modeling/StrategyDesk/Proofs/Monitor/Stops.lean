import StrategyDesk.Proofs.Monitor.Readings

/-!
# After the loops were told to stop

A loop that has taken an answer shows it, also when it was told to stop in the meantime. What is
shown after that depends on what is in the hands of the loops when they are told to stop.

## Main Definitions

* `Display.NothingNew` — what is in the hands of the loops has been shown before
* `Display.Stopped` — the loops were told to stop

## Main Statements

* `Display.Stopped.nothingNew` — one event after the loops were told to stop
* `Display.shown_stays_iff` — when nothing new is shown after the loops were told to stop
-/

namespace StrategyDesk

namespace Display

variable {Board Answer Aside Request Shown : Type}
variable {d : Display Board Answer Aside Request Shown} {x y : MonitorExecution Board}
variable {event : MonitorEvent Answer Aside} {later : List (MonitorEvent Answer Aside)} {i : Nat}

/-- What is in the hands of the loops has been shown before. -/
def NothingNew (d : Display Board Answer Aside Request Shown) (x : MonitorExecution Board) : Prop :=
  ∀ (i : Nat) answer request, d.inHand x.board i = some answer →
    (d.asked x.board)[i]? = some request →
    ∀ shown, d.shows request answer = some shown → d.shown x.board = shown

/-- The loops were told to stop. -/
def Stopped (d : Display Board Answer Aside Request Shown) (x : MonitorExecution Board) : Prop :=
  ∀ (i : Nat) l, (d.loops x.board)[i]? = some l → l.cancelled = true

/-- A loop in whose hand there is something shows it. -/
theorem shown_of_publish {answer : Answer} (step : d.step? x (.publish i) = some y)
    (held : d.inHand x.board i = some answer) : ∃ request, (d.asked x.board)[i]? = some request ∧
      d.shown y.board = (d.shows request answer).getD (d.shown x.board) := by
  obtain ⟨-, rfl⟩ := Monitor.step?_publish step
  obtain ⟨loop, there, -⟩ := Option.bind_eq_some_iff.mp held
  have inside : i < (d.asked x.board).length := by
    rw [d.length_asked, Monitor.loops, List.length_map]
    exact (List.getElem?_eq_some_iff.mp there).1
  have asked := List.getElem?_eq_getElem inside
  exact ⟨_, asked, d.shown_publish x.board i _ _ held asked⟩

theorem NothingNew.of_fewer (nothing : d.NothingNew x)
    (hands : ∀ i answer, d.inHand y.board i = some answer → d.inHand x.board i = some answer)
    (asked : d.asked y.board = d.asked x.board) (shown : d.shown y.board = d.shown x.board) :
    d.NothingNew y := by
  intro i answer request held remembered success
  rw [shown]
  rw [asked] at remembered
  exact nothing i answer request (hands i answer held) remembered success

/-- Loops stay told to stop, as long as none is started. -/
theorem Stopped.step (stopped : d.Stopped x) (step : d.step? x event = some y)
    (nothingStarted : x.started event = []) : d.Stopped y := by
  intro i l found
  rcases Monitor.of_getElem?_step step found with ⟨before, there, rfl⟩ | ⟨fresh, begins, -⟩
  · exact RefreshLoop.after_cancelled (stopped i before there) _
  · rw [nothingStarted] at begins
    cases begins

/-- A loop that was told to stop asks for nothing. -/
theorem Stopped.asks (stopped : d.Stopped x) (i now : Nat) : d.asks x.board i now = none := by
  cases asks : d.asks x.board i now with
  | none => rfl
  | some request =>
      obtain ⟨l, found, begins⟩ := (d.asks_iff x.board i now).mp (by rw [asks]; rfl)
      rw [RefreshLoop.begins_of_cancelled (stopped i l found)] at begins
      cases begins

/-- One event after the loops were told to stop. -/
theorem Stopped.nothingNew (stopped : d.Stopped x) (nothing : d.NothingNew x)
    (step : d.step? x event = some y) (unwatched : ∀ period, event ≠ .watch period)
    (leaves : ∀ what, event = .aside what → d.Leaves what) :
    d.shown y.board = d.shown x.board ∧ d.NothingNew y := by
  -- An event that shows nothing, and after which there is no more in the hands of the loops.
  have quiet (shown : d.shown y.board = d.shown x.board)
      (asked : d.asked y.board = d.asked x.board)
      (hands : ∀ i answer, d.inHand y.board i = some answer → d.inHand x.board i = some answer) :
      d.shown y.board = d.shown x.board ∧ d.NothingNew y :=
    ⟨shown, nothing.of_fewer hands asked shown⟩
  have still (unmoved : d.Unmoved x y) : d.shown y.board = d.shown x.board ∧ d.NothingNew y :=
    quiet unmoved.shown unmoved.asked fun i _ held => (unmoved.hands i).symm.trans held
  cases event with
  | watch period => exact absurd rfl (unwatched period)
  | stop | fire _ | fireAfter _ _ | expire _ | pass _ | aside _ =>
      exact still (.of_isPassive step rfl leaves)
  | look j => exact still (.of_silent step (stopped.asks j x.now))
  | reply j answer =>
      obtain ⟨⟨r, there, -, -⟩, reached⟩ := Monitor.step?_reply step
      have cancelled := stopped j r.refresh (by simp [Monitor.loops, there])
      have hands := Monitor.inHand_reply step there
      simp only [cancelled, Bool.true_eq_false, and_false, if_false] at hands
      subst reached
      refine quiet (d.shown_receive ..) (d.asked_receive ..) fun i _ held => ?_
      exact (hands i).symm.trans held
  | publish j =>
      obtain ⟨⟨answer, held⟩, reached⟩ := Monitor.step?_publish step
      obtain ⟨request, asked, shown⟩ := shown_of_publish step held
      have hands := Monitor.inHand_publish step
      subst reached
      refine quiet ?_ (d.asked_publish ..) fun i _ later => ?_
      · rw [shown]
        cases success : d.shows request answer with
        | none => rfl
        | some shown => exact (nothing j answer request held asked shown success).symm
      · rw [hands i] at later
        split at later
        · cases later
        · exact later

/-- A run after the loops were told to stop. -/
theorem Stopped.shown_of_run? (stopped : d.Stopped x) (nothing : d.NothingNew x)
    (run : d.run? x later = some y) (unwatched : ∀ period, .watch period ∉ later)
    (leaves : ∀ what, .aside what ∈ later → d.Leaves what) :
    d.shown y.board = d.shown x.board := by
  induction later generalizing x with
  | nil =>
      obtain rfl := Option.some.inj run
      rfl
  | cons event rest ih =>
      rw [Monitor.run?, runFrom?_cons, Option.bind_eq_some_iff] at run
      obtain ⟨z, step, goesOn⟩ := run
      have unwatchedNow : ∀ period, event ≠ .watch period := fun period same =>
        unwatched period (same ▸ List.mem_cons_self)
      obtain ⟨same, still⟩ := stopped.nothingNew nothing step unwatchedNow fun what here =>
        leaves what (here ▸ List.mem_cons_self)
      have later := ih (stopped.step step (Monitor.started_eq_nil unwatchedNow)) still goesOn
        (fun period mem => unwatched period (List.mem_cons_of_mem event mem))
        fun what mem => leaves what (List.mem_cons_of_mem event mem)
      exact later.trans same

/-- **When nothing new is shown after the loops were told to stop**, until another one is started:
exactly if nothing new is in their hands at that moment. -/
theorem shown_stays_iff (d : Display Board Answer Aside Request Shown)
    (x : MonitorExecution Board) :
    (∀ later y, (∀ period, .watch period ∉ later) → (∀ what, .aside what ∈ later → d.Leaves what) →
      d.run? x (.stop :: later) = some y → d.shown y.board = d.shown x.board) ↔
      d.NothingNew x := by
  obtain ⟨z, stops⟩ : ∃ z, d.step? x .stop = some z := ⟨_, rfl⟩
  obtain ⟨asked, shown, hands⟩ : d.Unmoved x z := .of_isPassive stops rfl nofun
  constructor
  · -- What is new in the hand of a loop is shown next.
    intro stays i answer request held remembered new success
    obtain ⟨y, publishes⟩ : ∃ y, d.step? z (.publish i) = some y := by
      simp [Monitor.step?, hands, held]
    have shows := stays [.publish i] y (by simp) (by simp) (by
      rw [Monitor.run?, runFrom?_cons, stops, Option.bind_some, runFrom?_cons, publishes]
      rfl)
    obtain ⟨same, again, after⟩ := shown_of_publish publishes ((hands i).trans held)
    obtain rfl : request = same := Option.some.inj (remembered.symm.trans (asked ▸ again))
    rw [success] at after
    exact shows.symm.trans after
  · intro nothing later y unwatched leaves run
    rw [Monitor.run?, runFrom?_cons, stops, Option.bind_some] at run
    have stopped : d.Stopped z := by
      intro i l found
      rcases Monitor.of_getElem?_step stops found with ⟨before, -, rfl⟩ | ⟨fresh, begins, -⟩
      · rfl
      · cases begins
    have new : d.NothingNew z :=
      nothing.of_fewer (fun i _ held => (hands i).symm.trans held) asked shown
    rw [← shown]
    exact stopped.shown_of_run? new run unwatched leaves

end Display

end StrategyDesk
