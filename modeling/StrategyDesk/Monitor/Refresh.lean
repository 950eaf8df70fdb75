import StrategyDesk.Polling.Ticker

/-!
# Refresh loops

A loop that refreshes something on every tick, and whenever it is asked to out of turn.

## Main Definitions

* `RefreshLoop` — the loop and the request that may be pending
* `RefreshLoop.fire` — asks for a refresh
* `RefreshLoop.look` — what the loop does when it gets its turn
* `RefreshLoop.receive` — the end of a wait for an answer
* `RefreshLoop.finish` — the end of a refresh
* `ReadLoop` — a refresh loop that reads, and the answer in its hand

## Design Notes

At most one request is kept. A request made while the loop is parked wakes it; should the loop then
find a tick due, it serves the tick and keeps the request.

A loop that reads looks at its mark when its wait for an answer ends, and not again before it has
shown the answer: the one who tells it to stop may overtake it in between.
-/

namespace StrategyDesk

/-- Where a refresh loop is. -/
inductive RefreshStage where
  /-- About to look for a reason to refresh. -/
  | ready
  /-- Waiting for a tick or a request. -/
  | parked
  | refreshing
  | returned
deriving DecidableEq, Repr

structure RefreshLoop where
  ticker : Ticker
  stage : RefreshStage
  /-- A request that the parked loop was woken by. -/
  woken : Bool
  /-- A request that the loop has not been woken by. -/
  kept : Bool
  cancelled : Bool
deriving DecidableEq, Repr

namespace RefreshLoop

/-- A loop that starts now. One without a period does nothing. -/
def start (period now : Nat) : RefreshLoop :=
  ⟨.start period now, if period = 0 then .returned else .ready, false, false, false⟩

/-- The loop has not come to an end and was not told to. -/
def isLive (l : RefreshLoop) : Bool := !l.cancelled && l.stage != .returned

/-- A request is pending. -/
def isPending (l : RefreshLoop) : Bool := l.woken || l.kept

/-- Asks for a refresh. -/
def fire (l : RefreshLoop) : RefreshLoop :=
  if l.stage = .parked ∧ !l.woken then { l with woken := true } else { l with kept := true }

/-- Tells the loop to stop. -/
def cancel (l : RefreshLoop) : RefreshLoop := { l with cancelled := true }

/-- The loop's turn: it returns when cancelled, refreshes for a tick that is due or for a request,
and parks otherwise. -/
def look (l : RefreshLoop) (now : Nat) : RefreshLoop :=
  if l.stage ≠ .ready ∧ l.stage ≠ .parked then l
  else if l.cancelled then { l with stage := .returned }
  else if l.ticker.due ≤ now then
    { l with
      ticker := l.ticker.serve now, stage := .refreshing
      woken := false, kept := l.isPending }
  else if l.woken then { l with stage := .refreshing, woken := false }
  else if l.kept then { l with stage := .refreshing, kept := false }
  else { l with stage := .parked }

/-- The end of a wait for an answer: a loop that was told to stop returns without it. -/
def receive (l : RefreshLoop) : RefreshLoop :=
  if l.stage = .refreshing ∧ l.cancelled then { l with stage := .returned } else l

/-- The end of a refresh. -/
def finish (l : RefreshLoop) : RefreshLoop :=
  if l.stage ≠ .refreshing then l
  else { l with stage := if l.cancelled then .returned else .ready }

end RefreshLoop

/-- A refresh loop that reads. -/
structure ReadLoop (Answer : Type) where
  refresh : RefreshLoop
  /-- An answer that was taken, and is about to be shown. -/
  inHand : Option Answer

namespace ReadLoop

variable {Answer : Type}

/-- A loop that starts now. -/
def start (period now : Nat) : ReadLoop Answer := ⟨.start period now, none⟩

/-- Changes the refresh loop. -/
def update (l : ReadLoop Answer) (f : RefreshLoop → RefreshLoop) : ReadLoop Answer :=
  { l with refresh := f l.refresh }

/-- The end of a wait for an answer. It is taken, unless the loop was told to stop. -/
def receive (l : ReadLoop Answer) (answer : Answer) : ReadLoop Answer where
  refresh := l.refresh.receive
  inHand := if l.refresh.stage = .refreshing ∧ !l.refresh.cancelled then some answer else l.inHand

/-- The end of a read: the answer in hand is given away. -/
def finish (l : ReadLoop Answer) : ReadLoop Answer := ⟨l.refresh.finish, none⟩

end ReadLoop

end StrategyDesk
