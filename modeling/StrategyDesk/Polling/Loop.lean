import StrategyDesk.Error
import StrategyDesk.Polling.Ticker

/-!
# Polling loops

A loop that waits for a tick, asks for a report, waits for the reply, and publishes what it makes
of the report.

## Main Definitions

* `LoopStage` — where such a loop is
* `PollLoop` — one loop, with the steps that it takes up to a report
* `PollLoops` — all loops that were started, and the one that is held

## Design Notes

A wait ends with what was waited for, or with nothing once the loop was cancelled: a cancelled loop
never gets what it waits for. Such a loop may still be waiting for a reply. It is kept, so that it
can be said of it that it does nothing any more.

Each step is what a loop does from one moment at which others may overtake it to the next. It may
be overtaken between its tick and its request, and with a report in hand, before it has the slot in
which it publishes.
-/

namespace StrategyDesk

/-- Where a loop is. -/
inductive LoopStage (Report : Type) where
  /-- Waiting for its next tick. -/
  | waiting
  /-- Served its tick, and about to ask. -/
  | ticked
  /-- Waiting for a reply. -/
  | asking
  /-- About to publish what it makes of a report. -/
  | holding (report : Report)
  | returned
deriving DecidableEq, Repr

namespace LoopStage

variable {Report : Type}

/-- The first stage of a loop. One without a period never gets to its first tick. -/
def first (period : Nat) : LoopStage Report := if period = 0 then returned else waiting

def hasReturned : LoopStage Report → Bool
  | returned => true
  | waiting | ticked | asking | holding _ => false

end LoopStage

/-- A loop that polls a subject. -/
structure PollLoop (Subject Report : Type) where
  subject : Subject
  ticker : Ticker
  stage : LoopStage Report
  cancelled : Bool
deriving DecidableEq, Repr

namespace PollLoop

variable {Subject Report : Type} (l : PollLoop Subject Report)

/-- The loop has not come to an end and was not told to. -/
def isLive : Bool := !l.cancelled && !l.stage.hasReturned

/-- Tells the loop to come to an end. -/
def cancel : PollLoop Subject Report := { l with cancelled := true }

/-- The wait for a tick ends: the tick is served. -/
def serve (now : Nat) : PollLoop Subject Report :=
  match l.stage with
  | .waiting =>
    if l.cancelled then { l with stage := .returned }
    else { l with ticker := l.ticker.serve now, stage := .ticked }
  | .ticked | .asking | .holding _ | .returned => l

/-- Asks for a report after a tick. Tells whether it does. -/
def ask : PollLoop Subject Report × Bool :=
  match l.stage with
  | .ticked =>
    if l.cancelled then ({ l with stage := .returned }, false)
    else ({ l with stage := .asking }, true)
  | .waiting | .asking | .holding _ | .returned => (l, false)

/-- The wait for a reply ends: a report is taken, and an error passed over. -/
def receive (answer : Except Error Report) : PollLoop Subject Report :=
  match l.stage with
  | .asking =>
    if l.cancelled then { l with stage := .returned }
    else
      match answer with
      | .error _ => { l with stage := .waiting }
      | .ok report => { l with stage := .holding report }
  | .waiting | .ticked | .holding _ | .returned => l

end PollLoop

/-- Loops, of which at most one is held. -/
structure PollLoops (Subject Report : Type) where
  /-- All loops ever started, in order. -/
  loops : List (PollLoop Subject Report)
  /-- The place of the loop that is held. -/
  held : Option Nat
deriving DecidableEq, Repr

namespace PollLoops

variable {Subject Report : Type}

/-- No loop was started. -/
def none : PollLoops Subject Report := ⟨[], .none⟩

variable (p : PollLoops Subject Report)

/-- The loop that is held. -/
def heldLoop? : Option (PollLoop Subject Report) := p.held.bind (p.loops[·]?)

/-- The loop that is held is live. -/
def isPolling : Bool := (p.heldLoop?.map PollLoop.isLive).getD false

/-- Changes one loop. -/
def update (i : Nat) (f : PollLoop Subject Report → PollLoop Subject Report) :
    PollLoops Subject Report :=
  { p with loops := p.loops.modify i f }

/-- Lets the held loop go and cancels it. -/
def release : PollLoops Subject Report :=
  match p.held with
  | .none => p
  | some i => { p.update i PollLoop.cancel with held := .none }

/-- Starts a loop and holds it in place of the one that was held. -/
def start (l : PollLoop Subject Report) : PollLoops Subject Report :=
  ⟨p.release.loops ++ [l], some p.loops.length⟩

/-- A loop asks for a report. Tells of what, if it does. -/
def ask (i : Nat) : PollLoops Subject Report × Option Subject :=
  (p.update i (·.ask.1),
    p.loops[i]?.bind fun l => if l.ask.2 then some l.subject else .none)

end PollLoops

end StrategyDesk
