import StrategyDesk.Exchange.Logs
import StrategyDesk.Text.Blank

/-!
# Log sources

Which log a tail is read from, and what of a tail is new.

## Main Definitions

* `LogSource`
* `unseenLines` — the lines of a tail after the last one shown
-/

namespace StrategyDesk

inductive LogSource where
  | pipeline
  | server
  | decisions
  /-- The log of a historical run. -/
  | run (name : String)
deriving DecidableEq, Repr

namespace LogSource

/-- The source under a name with blanks around it; an unknown name is that of a run. -/
def ofText (text : String) : LogSource :=
  let name := trim text
  if name = "" ∨ name = "pipeline" then pipeline
  else if name = "server" then server
  else if name = "decisions" then decisions
  else run name

/-- The name under which the engine is asked. -/
def query : LogSource → String
  | pipeline => "pipeline"
  | server => "server"
  | decisions => "decisions"
  | run name => name

end LogSource

/-- The items after the last occurrence of one; all of them if it does not occur. -/
def afterLast {α : Type} [DecidableEq α] (last : α) (items : List α) : List α :=
  (items.reverse.takeWhile (· ≠ last)).reverse

/-- The lines of a tail that come after the last line shown. -/
def unseenLines (lines : List LogLine) (lastShown : Option LogLine) : List LogLine :=
  match lastShown with
  | none => lines
  | some last => afterLast last lines

end StrategyDesk
