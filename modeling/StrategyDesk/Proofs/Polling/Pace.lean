import Mathlib.Data.List.Chain
import StrategyDesk.Proofs.Polling.Loops

/-!
# The pace of a polling loop

When a loop asks. A tick is served some time after it falls due, and never before; the question
follows at once; the reply may take any time.

## Main Definitions

* `PollRecord` — when a loop was started, and when it asked
* `PollLoop.Moves` — what may happen to a loop at some moment, and to its record
* `PollLoop.Paced`, `PollLoop.Punctual` — the invariants
* `PollLoop.isOnTime` — time may pass without holding up a loop

## Main Statements

* `PollLoop.Moves.paced` — a question is asked a period after the one before, but for the grace
* `PollLoop.Moves.punctual`, `PollLoop.Punctual.pass` — a loop that nothing holds up keeps to its
  schedule
-/

namespace StrategyDesk

variable {Subject Report : Type}

/-- When a loop was started, when it asked, and how many of its questions have ended. -/
structure PollRecord where
  started : Nat
  asked : List Nat
  ended : Nat
deriving DecidableEq, Repr

/-- The next tick falls due no earlier than the one that is served, and a period from now, but for
the grace. -/
theorem Ticker.serve_due (t : Ticker) (now : Nat) :
    t.due ≤ (t.serve now).due ∧ now + t.period ≤ (t.serve now).due + grace := by
  unfold serve
  split <;> dsimp only <;> omega

/-- A tick that is not missed does not move those after it. -/
theorem Ticker.serve_due_of_le {t : Ticker} {now : Nat} (onTime : now ≤ t.due + grace) :
    (t.serve now).due = t.due + t.period := by
  simp [serve, Nat.not_lt.mpr onTime]

namespace LoopStage

/-- A tick was served, and the question that follows at once was not yet asked. -/
@[simp] def isTicked : LoopStage Report → Bool
  | ticked => true
  | waiting | asking | holding _ | returned => false

/-- A question is in flight. -/
@[simp] def isAsking : LoopStage Report → Bool
  | asking => true
  | waiting | ticked | holding _ | returned => false

end LoopStage

/-! ## The moves of a loop -/

namespace PollLoop

/-- What may happen to a loop at some moment, and what is recorded of it. -/
inductive Moves (enter : PollLoop Subject Report → PollLoop Subject Report) (now : Nat)
    (l : PollLoop Subject Report) (r : PollRecord) : PollLoop Subject Report → PollRecord → Prop
  | stays : Moves enter now l r l r
  | cancelled : Moves enter now l r l.cancel r
  | serves (waiting : l.stage = .waiting)
      (due : l.cancelled = false → l.ticker.due ≤ now) : Moves enter now l r (l.serve now) r
  | asks (ticked : l.stage = .ticked) : Moves enter now l r l.ask.1
      (if l.ask.2 then { r with asked := r.asked ++ [now] } else r)
  | receives (answer) (asking : l.stage = .asking) :
      Moves enter now l r (l.receive answer) { r with ended := r.ended + 1 }
  | publishes {report} (holding : l.stage = .holding report) : Moves enter now l r (enter l) r

/-- Entering a report leaves the ticker, and ends with a wait or with the loop. -/
structure Enters (enter : PollLoop Subject Report → PollLoop Subject Report) : Prop where
  ticker : ∀ l, (enter l).ticker = l.ticker
  cancelled : ∀ l, (enter l).cancelled = l.cancelled
  stage : ∀ l report, l.stage = .holding report →
    (enter l).stage = .waiting ∨ (enter l).stage = .returned

variable {enter : PollLoop Subject Report → PollLoop Subject Report} {period now : Nat}
variable {l m : PollLoop Subject Report} {r s : PollRecord}

theorem serve_of_waiting (waiting : l.stage = .waiting) (notCancelled : l.cancelled = false) :
    l.serve now = { l with ticker := l.ticker.serve now, stage := .ticked } := by
  simp [serve, waiting, notCancelled]

theorem serve_of_cancelled (waiting : l.stage = .waiting) (cancelled : l.cancelled = true) :
    l.serve now = { l with stage := .returned } := by
  simp [serve, waiting, cancelled]

theorem ask_of_ticked (ticked : l.stage = .ticked) (notCancelled : l.cancelled = false) :
    l.ask = ({ l with stage := .asking }, true) := by
  simp [ask, ticked, notCancelled]

theorem ask_of_cancelled (ticked : l.stage = .ticked) (cancelled : l.cancelled = true) :
    l.ask = ({ l with stage := .returned }, false) := by
  simp [ask, ticked, cancelled]

theorem receive_ticker (answer : Except Error Report) :
    (l.receive answer).ticker = l.ticker := by
  unfold receive
  split
  · split
    · rfl
    · split <;> rfl
  all_goals rfl

/-- Once its question has ended, a loop waits, holds a report or has returned. -/
theorem receive_stage (asking : l.stage = .asking) (answer : Except Error Report) :
    (l.receive answer).stage.isTicked = false ∧ (l.receive answer).stage.isAsking = false := by
  cases mark : l.cancelled with
  | true => simp [receive, asking, mark, LoopStage.isTicked, LoopStage.isAsking]
  | false => cases answer <;> simp [receive, asking, mark, LoopStage.isTicked, LoopStage.isAsking]

/-! ## The distance between questions -/

/-- A loop asks a period after it asked before, but for the grace, and one question at a time. -/
structure Paced (period now : Nat) (l : PollLoop Subject Report) (r : PollRecord) : Prop where
  spaced : r.asked.IsChain fun a b => a + period ≤ b + Ticker.grace
  /-- The next tick falls due a period after the last question. -/
  next : ∀ a ∈ r.asked.getLast?, a + period ≤ l.ticker.due + Ticker.grace
  /-- A question that is about to be asked comes late enough, and so does the tick after it. -/
  ticked : l.stage.isTicked = true → l.cancelled = false →
    (∀ a ∈ r.asked.getLast?, a + period ≤ now + Ticker.grace) ∧
      now + period ≤ l.ticker.due + Ticker.grace
  single : r.asked.length = r.ended + l.stage.isAsking.toNat
  ofPeriod : l.ticker.period = period

namespace Paced

theorem cancel (paced : l.Paced period now r) : l.cancel.Paced period now r where
  spaced := paced.spaced
  next := paced.next
  ticked _ mark := nomatch mark
  single := paced.single
  ofPeriod := paced.ofPeriod

/-- A loop that has neither just served a tick nor asked, with the ticker that it had. -/
theorem of_stage (paced : l.Paced period now r) (ticker : m.ticker = l.ticker)
    (spaced : s.asked = r.asked) (unticked : m.stage.isTicked = false)
    (single : s.asked.length = s.ended + m.stage.isAsking.toNat) : m.Paced period now s where
  spaced := by
    rw [spaced]
    exact paced.spaced
  next := by
    rw [spaced, ticker]
    exact paced.next
  ticked ticked := by
    rw [unticked] at ticked
    cases ticked
  single := single
  ofPeriod := by
    rw [ticker]
    exact paced.ofPeriod

theorem serve (paced : l.Paced period now r) (waiting : l.stage = .waiting)
    (notCancelled : l.cancelled = false) (due : l.ticker.due ≤ now) :
    (l.serve now).Paced period now r := by
  have single := paced.single
  rw [waiting] at single
  obtain ⟨later, after⟩ := l.ticker.serve_due now
  rw [paced.ofPeriod] at after
  rw [serve_of_waiting waiting notCancelled]
  constructor
  case spaced => exact paced.spaced
  case next => exact fun a last => Nat.le_trans (paced.next a last) (by dsimp only; omega)
  case ticked =>
    intro _ _
    refine ⟨fun a last => ?_, after⟩
    have next := paced.next a last
    omega
  case single => exact single
  case ofPeriod => exact paced.ofPeriod

theorem ask (paced : l.Paced period now r) (ticked : l.stage = .ticked)
    (notCancelled : l.cancelled = false) :
    l.ask.1.Paced period now { r with asked := r.asked ++ [now] } := by
  have single := paced.single
  rw [ticked] at single
  obtain ⟨lateEnough, after⟩ := paced.ticked (by rw [ticked]; rfl) notCancelled
  rw [ask_of_ticked ticked notCancelled]
  constructor
  case spaced =>
    refine paced.spaced.append (.singleton now) fun a last b first => ?_
    obtain rfl : now = b := Option.some.inj first
    exact lateEnough a last
  case next =>
    intro a last
    rw [List.getLast?_concat] at last
    obtain rfl : now = a := Option.some.inj last
    exact after
  case ticked => exact nofun
  case single =>
    rw [List.length_append, single]
    rfl
  case ofPeriod => exact paced.ofPeriod

end Paced

/-- **Each move of a loop keeps its pace.** -/
theorem Moves.paced (enters : Enters enter) (moves : Moves enter now l r m s)
    (paced : l.Paced period now r) : m.Paced period now s := by
  have single := paced.single
  cases moves with
  | stays => exact paced
  | cancelled => exact paced.cancel
  | serves waiting due =>
      rw [waiting] at single
      cases mark : l.cancelled with
      | false => exact paced.serve waiting mark (due mark)
      | true =>
          rw [serve_of_cancelled waiting mark]
          exact paced.of_stage rfl rfl rfl single
  | asks ticked =>
      rw [ticked] at single
      cases mark : l.cancelled with
      | false =>
          have asks := paced.ask ticked mark
          rw [ask_of_ticked ticked mark] at asks ⊢
          exact asks
      | true =>
          rw [ask_of_cancelled ticked mark]
          exact paced.of_stage rfl rfl rfl single
  | receives answer asking =>
      rw [asking] at single
      obtain ⟨unticked, unasked⟩ := receive_stage asking answer
      refine paced.of_stage (l.receive_ticker answer) rfl unticked ?_
      rw [unasked]
      exact single
  | @publishes report holding =>
      rw [holding] at single
      refine paced.of_stage (enters.ticker l) rfl ?_ ?_
      · rcases enters.stage l report holding with waits | ends
        · rw [waits]; rfl
        · rw [ends]; rfl
      · rcases enters.stage l report holding with waits | ends
        · rw [waits]; exact single
        · rw [ends]; exact single

/-- Time passes while no question is about to be asked. -/
theorem Paced.pass (paced : l.Paced period now r) (ms : Nat)
    (unticked : l.cancelled = false → l.stage.isTicked = false) :
    l.Paced period (now + ms) r where
  spaced := paced.spaced
  next := paced.next
  ticked ticked notCancelled := by
    rw [unticked notCancelled] at ticked
    cases ticked
  single := paced.single
  ofPeriod := paced.ofPeriod

/-! ## The schedule of a loop that nothing holds up -/

/-- A loop has asked as its schedule says, and is on its way to its next question: as many periods
from its start as it has asked questions, and a head start of some more. -/
structure Punctual (period headStart now : Nat) (l : PollLoop Subject Report) (r : PollRecord) :
    Prop where
  kept : ∀ (k a : Nat), r.asked[k]? = some a → a = r.started + (k + headStart) * period
  due : l.isLive = true → l.stage.isTicked = false → now ≤ l.ticker.due ∧
    l.ticker.due = r.started + (r.asked.length + headStart) * period
  ticked : l.isLive = true → l.stage.isTicked = true →
    now = r.started + (r.asked.length + headStart) * period ∧ l.ticker.due = now + period

variable {headStart : Nat}

namespace Punctual

/-- A loop that has come to its end, or was told to, has asked as its schedule says. -/
theorem of_not_isLive (punctual : l.Punctual period headStart now r) (ended : m.isLive = false)
    (asked : s.asked = r.asked) (started : s.started = r.started) :
    m.Punctual period headStart now s where
  kept := by
    rw [asked, started]
    exact punctual.kept
  due live := by
    rw [ended] at live
    cases live
  ticked live := by
    rw [ended] at live
    cases live

/-- A loop that does not serve a tick, and asks nothing. -/
theorem of_stage (punctual : l.Punctual period headStart now r) (ticker : m.ticker = l.ticker)
    (asked : s.asked = r.asked) (started : s.started = r.started)
    (live : m.isLive = true → l.isLive = true)
    (unticked : l.stage.isTicked = false ∧ m.stage.isTicked = false) :
    m.Punctual period headStart now s where
  kept := by
    rw [asked, started]
    exact punctual.kept
  due lives _ := by
    rw [ticker, asked, started]
    exact punctual.due (live lives) unticked.1
  ticked _ ticked := by
    rw [unticked.2] at ticked
    cases ticked

theorem serve (punctual : l.Punctual period headStart now r) (ofPeriod : l.ticker.period = period)
    (waiting : l.stage = .waiting) (notCancelled : l.cancelled = false)
    (due : l.ticker.due ≤ now) : (l.serve now).Punctual period headStart now r := by
  have live : l.isLive = true := l.isLive_iff.mpr ⟨notCancelled, by rw [waiting]; rfl⟩
  obtain ⟨early, schedule⟩ := punctual.due live (by rw [waiting]; rfl)
  -- The tick is served at the very moment in which it falls due.
  have prompt : l.ticker.due = now := Nat.le_antisymm due early
  have next := @Ticker.serve_due_of_le l.ticker now (by omega)
  rw [serve_of_waiting waiting notCancelled]
  constructor
  case kept => exact punctual.kept
  case due =>
    intro _ unticked
    cases unticked
  case ticked =>
    intro _ _
    refine ⟨prompt.symm.trans schedule, ?_⟩
    rw [next, ofPeriod, prompt]

theorem ask (punctual : l.Punctual period headStart now r) (ticked : l.stage = .ticked)
    (notCancelled : l.cancelled = false) :
    l.ask.1.Punctual period headStart now { r with asked := r.asked ++ [now] } := by
  have live : l.isLive = true := l.isLive_iff.mpr ⟨notCancelled, by rw [ticked]; rfl⟩
  obtain ⟨itsTime, next⟩ := punctual.ticked live (by rw [ticked]; rfl)
  rw [ask_of_ticked ticked notCancelled]
  constructor
  case kept =>
    intro k a asked
    rw [List.getElem?_append] at asked
    split at asked
    · exact punctual.kept k a asked
    · next outside =>
      rw [List.getElem?_singleton] at asked
      split at asked
      · next last =>
        have place : k = r.asked.length := by omega
        rw [← Option.some.inj asked, place]
        exact itsTime
      · cases asked
  case due =>
    intro _ _
    refine ⟨by dsimp only; omega, ?_⟩
    dsimp only
    rw [next, List.length_append, List.length_singleton, Nat.add_right_comm, Nat.succ_mul]
    omega
  case ticked =>
    intro _ ticked
    cases ticked

end Punctual

theorem isLive_of_enter (enters : Enters enter) {report : Report}
    (holding : l.stage = .holding report) (live : (enter l).isLive = true) : l.isLive = true := by
  refine l.isLive_iff.mpr ⟨?_, by rw [holding]; rfl⟩
  rw [← enters.cancelled l]
  exact (enter l).cancelled_of_isLive live

/-- **Each move of a loop keeps to its schedule.** -/
theorem Moves.punctual (enters : Enters enter) (moves : Moves enter now l r m s)
    (ofPeriod : l.ticker.period = period) (punctual : l.Punctual period headStart now r) :
    m.Punctual period headStart now s := by
  cases moves with
  | stays => exact punctual
  | cancelled => exact punctual.of_not_isLive (by simp [isLive, cancel]) rfl rfl
  | serves waiting due =>
      cases mark : l.cancelled with
      | false => exact punctual.serve ofPeriod waiting mark (due mark)
      | true =>
          rw [serve_of_cancelled waiting mark]
          exact punctual.of_not_isLive (by simp [isLive, mark]) rfl rfl
  | asks ticked =>
      cases mark : l.cancelled with
      | false =>
          have asks := punctual.ask ticked mark
          rw [ask_of_ticked ticked mark] at asks ⊢
          exact asks
      | true =>
          rw [ask_of_cancelled ticked mark]
          exact punctual.of_not_isLive (by simp [isLive, mark]) rfl rfl
  | receives answer asking =>
      obtain ⟨unticked, -⟩ := receive_stage asking answer
      refine punctual.of_stage (l.receive_ticker answer) rfl rfl ?_ ⟨by rw [asking]; rfl, unticked⟩
      intro live
      refine l.isLive_iff.mpr ⟨?_, by rw [asking]; rfl⟩
      rw [← receive_cancelled l answer]
      exact cancelled_of_isLive _ live
  | @publishes report holding =>
      refine punctual.of_stage (enters.ticker l) rfl rfl (isLive_of_enter enters holding)
        ⟨by rw [holding]; rfl, ?_⟩
      rcases enters.stage l report holding with waits | ends
      · rw [waits]; rfl
      · rw [ends]; rfl

/-- Time may pass without holding up a loop: its tick does not fall due meanwhile, the reply that it
waits for does not take longer than a period, and there is nothing that it is about to do. -/
def isOnTime (period now ms : Nat) (l : PollLoop Subject Report) (r : PollRecord) : Bool :=
  match l.stage with
  | .waiting => decide (now + ms ≤ l.ticker.due)
  | .asking => r.asked.getLast?.all fun a => decide (now + ms ≤ a + period)
  | .ticked | .holding _ => false
  | .returned => true

/-- **A loop that nothing holds up stays on schedule** while time passes. -/
theorem Punctual.pass (punctual : l.Punctual period headStart now r)
    (paced : l.Paced period now r) {ms : Nat}
    (onTime : l.isLive = true → l.isOnTime period now ms r = true) :
    l.Punctual period headStart (now + ms) r := by
  constructor
  case kept => exact punctual.kept
  case due =>
    intro live unticked
    obtain ⟨-, schedule⟩ := punctual.due live unticked
    refine ⟨?_, schedule⟩
    have onTime := onTime live
    unfold isOnTime at onTime
    cases stage : l.stage with
    | waiting => simpa [stage] using onTime
    | returned => simp [isLive, stage, LoopStage.hasReturned] at live
    | ticked | holding _ => simp [stage] at onTime
    | asking =>
        -- The question in flight is the last one, and the next tick falls due a period after it.
        rw [stage] at onTime
        have single := paced.single
        rw [stage] at single
        have inside : r.asked.length - 1 < r.asked.length := by
          simp only [LoopStage.isAsking, Bool.toNat_true] at single
          omega
        have last : r.asked.getLast? = some r.asked[r.asked.length - 1] := by
          rw [List.getLast?_eq_getElem?, List.getElem?_eq_getElem inside]
        have asked := punctual.kept _ _ (List.getElem?_eq_getElem inside)
        simp only [last, Option.all_some, decide_eq_true_eq] at onTime
        rw [asked, Nat.add_assoc, ← Nat.succ_mul] at onTime
        have place : (r.asked.length - 1 + headStart).succ = r.asked.length + headStart := by omega
        rw [schedule]
        rwa [place] at onTime
  case ticked =>
    intro live ticked
    have onTime := onTime live
    cases stage : l.stage with
    | ticked => simp [isOnTime, stage] at onTime
    | waiting | asking | holding _ | returned => simp [stage] at ticked

/-- A live loop has asked each question that is due by its schedule. -/
theorem Punctual.lt_length (punctual : l.Punctual period headStart now r)
    (live : l.isLive = true) {k : Nat} (due : r.started + (k + headStart) * period < now) :
    k < r.asked.length := by
  have early : now ≤ r.started + (r.asked.length + headStart) * period := by
    cases ticked : l.stage.isTicked with
    | true => exact (punctual.ticked live ticked).1.le
    | false =>
        obtain ⟨early, schedule⟩ := punctual.due live ticked
        exact schedule ▸ early
  by_contra beyond
  have fewer : r.asked.length + headStart ≤ k + headStart := by omega
  have notLater := Nat.mul_le_mul_right period fewer
  omega

end PollLoop

end StrategyDesk
