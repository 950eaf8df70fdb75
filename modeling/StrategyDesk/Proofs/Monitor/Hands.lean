import StrategyDesk.Proofs.Monitor.Requests

/-!
# What is in the hand of a loop

Between the arrival of an answer and its showing, the answer is in the hand of the loop that asked.

## Main Definitions

* `ReadLoop.Holds` — a loop has an answer in its hand only while it reads

## Main Statements

* `Monitor.holds_step` — each event keeps it so
* `Monitor.inHand_reply`, `Monitor.inHand_publish` — what is taken, and what is given away
* `Monitor.inHand_of_not_isOfAnswer` — other events leave what is in the hands of the loops
-/

namespace StrategyDesk

namespace RefreshLoop

@[simp] theorem look_cancelled (l : RefreshLoop) (now : Nat) :
    (l.look now).cancelled = l.cancelled := by
  have looked := l.looks now
  generalize l.look now = next at looked
  cases looked <;> rfl

@[simp] theorem receive_cancelled (l : RefreshLoop) : l.receive.cancelled = l.cancelled := by
  unfold receive
  split <;> rfl

theorem isBusy_of_receive {l : RefreshLoop} (busy : l.receive.isBusy = true) :
    l.isBusy = true := by
  unfold receive at busy
  split at busy
  · cases busy
  · exact busy

@[simp] theorem finish_cancelled (l : RefreshLoop) : l.finish.cancelled = l.cancelled := by
  unfold finish
  split <;> rfl

@[simp] theorem isBusy_finish (l : RefreshLoop) : l.finish.isBusy = false := by
  unfold finish isBusy
  split
  · next idle => simpa using idle
  · cases l.cancelled <;> rfl

/-- A loop that was told to stop stays so. -/
theorem advance_cancelled {l : RefreshLoop} (cancelled : l.cancelled = true)
    (event : RefreshEvent) : (l.advance event).cancelled = true := by
  cases event with
  | cancel => rfl
  | fire | look _ | receive | finish => simpa [advance] using cancelled

theorem after_cancelled {l : RefreshLoop} (cancelled : l.cancelled = true)
    (history : List RefreshEvent) : (l.after history).cancelled = true := by
  induction history generalizing l with
  | nil => exact cancelled
  | cons event rest ih => exact ih (advance_cancelled cancelled event)

/-- A loop that was told to stop begins nothing. -/
theorem begins_of_cancelled {l : RefreshLoop} (cancelled : l.cancelled = true) (now : Nat) :
    l.begins (.look now) = false := by
  have looked := l.looks now
  simp only [begins]
  generalize l.look now = next at looked
  cases looked with
  | passes _ => simp
  | returns _ _ => simp [isBusy]
  | serves _ uncancelled _ | wakes _ uncancelled _ _ | recalls _ uncancelled _ _ _
  | parks _ uncancelled _ _ _ =>
      rw [cancelled] at uncancelled
      cases uncancelled

/-- A loop is busy after its turn if it was before, or begins a refresh. -/
theorem isBusy_look (l : RefreshLoop) (now : Nat) :
    (l.look now).isBusy = (l.isBusy || l.begins (.look now)) := by
  cases busy : l.isBusy with
  | true => simp [look_of_isBusy busy, busy]
  | false => simp [begins, busy]

end RefreshLoop

namespace ReadLoop

variable {Answer : Type} {r : ReadLoop Answer}

/-- A loop has an answer in its hand only while it reads. -/
def Holds (r : ReadLoop Answer) : Prop := r.inHand.isSome = true → r.refresh.isBusy = true

theorem Holds.update {f : RefreshLoop → RefreshLoop} (holds : r.Holds)
    (goesOn : r.refresh.isBusy = true → (f r.refresh).isBusy = true) : (r.update f).Holds :=
  fun held => goesOn (holds held)

/-- A loop that takes an answer goes on reading. -/
theorem holds_receive (refreshing : r.refresh.stage = .refreshing) (empty : r.inHand = none)
    (answer : Answer) : (r.receive answer).Holds := by
  intro held
  have uncancelled : r.refresh.cancelled = false := by
    simpa [receive, refreshing, empty] using held
  simp [receive, RefreshLoop.receive_of_not_cancelled uncancelled, RefreshLoop.isBusy, refreshing]

theorem holds_finish (r : ReadLoop Answer) : r.finish.Holds := nofun

end ReadLoop

namespace Monitor

variable {Board Answer Aside : Type} {m : Monitor Board Answer Aside} {x y : MonitorExecution Board}
variable {event : MonitorEvent Answer Aside}

theorem holds_turn {i : Nat} {r : ReadLoop Answer} (step : m.step? x event = some y)
    (there : (m.reads x.board)[i]? = some r) (holds : r.Holds) : (x.turn i r event).Holds := by
  have fires : (r.update .fire).Holds := holds.update fun busy => by
    simpa [RefreshLoop.isBusy] using busy
  cases event with
  | watch _ | stop | fireAfter _ _ | pass _ | aside _ => exact holds
  | fire j | expire j =>
      simp only [MonitorExecution.turn]
      split
      · exact fires
      · exact holds
  | look j =>
      simp only [MonitorExecution.turn]
      split
      · exact holds.update fun busy => by rwa [RefreshLoop.look_of_isBusy busy]
      · exact holds
  | reply j answer =>
      obtain ⟨⟨waiting, here, refreshing, empty⟩, -⟩ := step?_reply step
      simp only [MonitorExecution.turn]
      split
      · next itself =>
        subst itself
        obtain rfl : waiting = r := Option.some.inj (here.symm.trans there)
        exact ReadLoop.holds_receive refreshing empty answer
      · exact holds
  | publish j =>
      simp only [MonitorExecution.turn]
      split
      · exact r.holds_finish
      · exact holds

/-- Each event keeps answers in the hands of loops that read. -/
theorem holds_step (step : m.step? x event = some y)
    (holds : ∀ (i : Nat) r, (m.reads x.board)[i]? = some r → r.Holds) :
    ∀ (i : Nat) r, (m.reads y.board)[i]? = some r → r.Holds := by
  intro i r found
  rcases of_getElem?_reads_step step found with ⟨before, there, rfl⟩ | fresh
  · exact holds_turn step there (holds i before there)
  · obtain ⟨period, rfl⟩ := eq_start_of_started fresh
    exact nofun

/-- What is in the hand of a loop after an event. -/
theorem inHand_step (step : m.step? x event = some y) (i : Nat) :
    m.inHand y.board i = (m.reads x.board)[i]?.bind fun r => (x.turn i r event).inHand := by
  cases found : (m.reads x.board)[i]? with
  | some r => simp [inHand, getElem?_reads_step step found]
  | none =>
      cases fresh : (m.reads y.board)[i]? with
      | none => simp [inHand, fresh]
      | some r =>
          rcases of_getElem?_reads_step step fresh with ⟨before, there, -⟩ | begins
          · rw [found] at there
            cases there
          · obtain ⟨period, rfl⟩ := eq_start_of_started begins
            simp [inHand, fresh, ReadLoop.start]

/-- What is in the hands of the loops changes only when an answer arrives or is shown. -/
theorem inHand_of_not_isOfAnswer (step : m.step? x event = some y)
    (other : event.isOfAnswer = false) (i : Nat) : m.inHand y.board i = m.inHand x.board i := by
  have same (r : ReadLoop Answer) : (x.turn i r event).inHand = r.inHand := by
    cases event with
    | reply _ _ | publish _ => cases other
    | watch _ | stop | fireAfter _ _ | pass _ | aside _ => rfl
    | fire j | expire j | look j =>
        simp only [MonitorExecution.turn]
        split <;> rfl
  rw [inHand_step step, inHand]
  exact congrArg _ (funext same)

/-- A loop that was not told to stop takes the answer. -/
theorem inHand_reply {i : Nat} {answer : Answer} {r : ReadLoop Answer}
    (step : m.step? x (.reply i answer) = some y) (there : (m.reads x.board)[i]? = some r)
    (k : Nat) : m.inHand y.board k =
      if k = i ∧ r.refresh.cancelled = false then some answer else m.inHand x.board k := by
  obtain ⟨⟨waiting, here, refreshing, empty⟩, -⟩ := step?_reply step
  obtain rfl : waiting = r := Option.some.inj (here.symm.trans there)
  rw [inHand_step step, inHand]
  by_cases itself : k = i
  · subst itself
    simp [here, MonitorExecution.turn, ReadLoop.receive, refreshing]
  · simp [MonitorExecution.turn, itself, Ne.symm itself]

/-- A loop gives away what it has in its hand. -/
theorem inHand_publish {i : Nat} (step : m.step? x (.publish i) = some y) (k : Nat) :
    m.inHand y.board k = if k = i then none else m.inHand x.board k := by
  rw [inHand_step step, inHand]
  by_cases itself : k = i
  · subst itself
    cases (m.reads x.board)[k]? <;> simp [MonitorExecution.turn, ReadLoop.finish]
  · simp [MonitorExecution.turn, itself, Ne.symm itself]

end Monitor

end StrategyDesk
