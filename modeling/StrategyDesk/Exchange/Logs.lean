import StrategyDesk.Json.Wire
import StrategyDesk.Text.Layout

/-!
# Log messages

Lines of the engine's logs, and its historical runs.

## Main Definitions

* `LogLevel`, `LogLine`, `LogReply`
* `RunInfo` — a historical pipeline run
-/

namespace StrategyDesk

inductive LogLevel where
  | error
  | warning
  | info
  | debug
deriving DecidableEq, Repr

namespace LogLevel

def name : LogLevel → String
  | error => "error"
  | warning => "warning"
  | info => "info"
  | debug => "debug"

/-- The level under its name in any case; an unknown name reads as `info`. -/
def ofName (text : String) : LogLevel :=
  let name := lowerAscii text
  if name = "error" then error
  else if name = "warning" ∨ name = "warn" then warning
  else if name = "debug" then debug
  else info

end LogLevel

instance : Wire LogLevel :=
  ⟨fun level => .string level.name, fun j => j.string?.map LogLevel.ofName⟩

structure LogLine where
  text : String
  level : LogLevel
deriving DecidableEq, Repr

instance : Wire LogLine where
  toJson l := .record [always "text" l.text, always "level" l.level]
  ofJson? j := do
    match ← j.slots? [["text"], ["level"]] with
    | [text, level] => some { text := ← text.orElse "", level := ← level.orElse .info }
    | _ => none

/-- The answer to a request for lines. -/
structure LogReply where
  source : Option String
  lines : List LogLine
deriving DecidableEq, Repr

instance : Wire LogReply where
  toJson r := .record [always "source" r.source, always "lines" r.lines]
  ofJson? j := do
    match ← j.slots? [["source"], ["lines"]] with
    | [source, lines] => some { source := ← source.optional, lines := ← lines.orElse [] }
    | _ => none

/-- A historical pipeline run. -/
structure RunInfo where
  name : String
  hasLog : Bool
  hasDecisions : Bool
  modified : Option String
deriving DecidableEq, Repr

instance : Wire RunInfo where
  toJson r := .record [always "name" r.name, always "has_log" r.hasLog,
    always "has_decisions" r.hasDecisions, always "modified" r.modified]
  ofJson? j := do
    match ← j.slots? [["name"], ["has_log"], ["has_decisions"], ["modified"]] with
    | [name, hasLog, hasDecisions, modified] =>
      some { name := ← name.required, hasLog := ← hasLog.orElse false
             hasDecisions := ← hasDecisions.orElse false, modified := ← modified.looseText }
    | _ => none

end StrategyDesk
