import StrategyDesk.Error
import StrategyDesk.Monitor.Refresh
import StrategyDesk.Monitor.Source

/-!
# The log monitor

The last lines that were read, from where they come, and the loops that read them.

## Main Definitions

* `LogTail` — lines and their source
* `LogBoard` — the source to read, the tail held, and all loops that were started
* `LogBoard.take` — the end of a read
* `LogBoard.watch`, `LogBoard.stop`, `LogBoard.fire`
* `LogBoard.look`, `LogBoard.receive`, `LogBoard.publish` — the steps of a loop
* `LogBoard.reply` — the steps that are taken at one go when nothing overtakes the loop
-/

namespace StrategyDesk

structure LogTail where
  source : LogSource
  lines : List LogLine
  /-- Lines were read at least once. -/
  fetched : Bool
deriving DecidableEq, Repr

/-- A loop that reads a log, and the source that its read in progress asks for. -/
structure LogLoop extends ReadLoop (Except Error (List LogLine)) where
  asked : LogSource

/-- Changes the loop, but not what it asks for. -/
def LogLoop.update (l : LogLoop) (f : RefreshLoop → RefreshLoop) : LogLoop :=
  { l with toReadLoop := l.toReadLoop.update f }

structure LogBoard where
  /-- How many lines are asked for. -/
  maxLines : Nat
  /-- The source that the next read asks for. -/
  source : LogSource
  tail : LogTail
  /-- All loops ever started, in order. -/
  loops : List LogLoop

namespace LogBoard

/-- Nothing read, and no loop started. -/
def empty (maxLines : Nat) : LogBoard := ⟨maxLines, .pipeline, ⟨.pipeline, [], false⟩, []⟩

/-- The end of a read of a source. After a failure the tail held stays. -/
def take (b : LogBoard) (asked : LogSource) : Except Error (List LogLine) → LogBoard
  | .ok lines => { b with tail := ⟨asked, lines, true⟩ }
  | .error _ => b

/-- Tells all loops to stop. -/
def stop (b : LogBoard) : LogBoard :=
  { b with loops := b.loops.map (·.update .cancel) }

/-- Starts a loop in place of those that run. -/
def watch (b : LogBoard) (period now : Nat) : LogBoard :=
  { b with loops := b.stop.loops ++ [⟨.start period now, b.source⟩] }

/-- Asks a loop for a refresh. -/
def fire (b : LogBoard) (i : Nat) : LogBoard :=
  { b with loops := b.loops.modify i (·.update .fire) }

/-- A loop's turn; gives the source if it starts to read. -/
def look (b : LogBoard) (i now : Nat) : LogBoard × Option LogSource :=
  match b.loops[i]? with
  | none => (b, none)
  | some loop =>
    let next := loop.update (·.look now)
    if loop.refresh.stage ≠ .refreshing ∧ next.refresh.stage = .refreshing then
      ({ b with loops := b.loops.set i { next with asked := b.source } }, some b.source)
    else ({ b with loops := b.loops.set i next }, none)

/-- A loop's wait for an answer ends. -/
def receive (b : LogBoard) (i : Nat) (answer : Except Error (List LogLine)) : LogBoard :=
  { b with
    loops := b.loops.modify i fun l => { l with toReadLoop := l.toReadLoop.receive answer } }

/-- A loop shows the answer in its hand, under the source that it asked for. Whether it was told to
stop in the meantime does not matter. -/
def publish (b : LogBoard) (i : Nat) : LogBoard :=
  match b.loops[i]? with
  | none => b
  | some loop =>
    match loop.inHand with
    | none => b
    | some answer =>
      { b.take loop.asked answer with
        loops := b.loops.modify i fun l => { l with toReadLoop := l.toReadLoop.finish } }

/-- A loop takes an answer, and shows it at once. -/
def reply (b : LogBoard) (i : Nat) (answer : Except Error (List LogLine)) : LogBoard :=
  (b.receive i answer).publish i

end LogBoard

end StrategyDesk
