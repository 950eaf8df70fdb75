import StrategyDesk.Exchange.Status
import StrategyDesk.Error
import StrategyDesk.Monitor.Refresh

/-!
# The status monitor

The last status that was read, and the loops that read it.

## Main Definitions

* `StatusBoard` — the status held, and all loops that were started
* `StatusBoard.take` — the end of a read
* `StatusBoard.watch`, `StatusBoard.stop`, `StatusBoard.fire`
* `StatusBoard.look`, `StatusBoard.receive`, `StatusBoard.publish` — the steps of a loop
* `StatusBoard.reply` — the steps that are taken at one go when nothing overtakes the loop
-/

namespace StrategyDesk

/-- A loop that reads the status. -/
abbrev StatusLoop := ReadLoop (Except Error ServiceStatus)

structure StatusBoard where
  /-- The last status that could be read. -/
  status : Option ServiceStatus
  /-- All loops ever started, in order. -/
  loops : List StatusLoop

namespace StatusBoard

/-- Nothing read, and no loop started. -/
def empty : StatusBoard := ⟨none, []⟩

/-- The end of a read. After a failure the status held stays. -/
def take (b : StatusBoard) : Except Error ServiceStatus → StatusBoard
  | .ok status => { b with status := some status }
  | .error _ => b

/-- Tells all loops to stop. -/
def stop (b : StatusBoard) : StatusBoard := { b with loops := b.loops.map (·.update .cancel) }

/-- Starts a loop in place of those that run. -/
def watch (b : StatusBoard) (period now : Nat) : StatusBoard :=
  { b with loops := b.stop.loops ++ [.start period now] }

/-- Asks a loop for a refresh. -/
def fire (b : StatusBoard) (i : Nat) : StatusBoard :=
  { b with loops := b.loops.modify i (·.update .fire) }

/-- A loop's turn; tells whether it starts to read. -/
def look (b : StatusBoard) (i now : Nat) : StatusBoard × Bool :=
  match b.loops[i]? with
  | none => (b, false)
  | some loop =>
    let next := loop.update (·.look now)
    ({ b with loops := b.loops.set i next },
      loop.refresh.stage != .refreshing && next.refresh.stage == .refreshing)

/-- A loop's wait for an answer ends. -/
def receive (b : StatusBoard) (i : Nat) (answer : Except Error ServiceStatus) : StatusBoard :=
  { b with loops := b.loops.modify i (·.receive answer) }

/-- A loop shows the answer in its hand. Whether it was told to stop in the meantime does not
matter. -/
def publish (b : StatusBoard) (i : Nat) : StatusBoard :=
  match b.loops[i]?.bind ReadLoop.inHand with
  | none => b
  | some answer => { b.take answer with loops := b.loops.modify i ReadLoop.finish }

/-- A loop takes an answer, and shows it at once. -/
def reply (b : StatusBoard) (i : Nat) (answer : Except Error ServiceStatus) : StatusBoard :=
  (b.receive i answer).publish i

end StatusBoard

end StrategyDesk
