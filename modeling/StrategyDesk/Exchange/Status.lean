import StrategyDesk.Json.Wire

/-!
# Service status

What the engine reports about the gateway, the pipeline and the decision log.

## Main Definitions

* `ServiceStatus`, with its `ProcessInfo`, `PipelineInfo` and `DecisionStats`
-/

namespace StrategyDesk

structure ProcessInfo where
  running : Bool
  pid : Option UInt32
  uptime : Option String
deriving DecidableEq, Repr

def ProcessInfo.down : ProcessInfo := ⟨false, none, none⟩

instance : Wire ProcessInfo where
  toJson p := .record [always "running" p.running, always "pid" p.pid, always "uptime" p.uptime]
  ofJson? j := do
    match ← j.slots? [["running"], ["pid"], ["uptime"]] with
    | [running, pid, uptime] =>
      some { running := ← running.orElse false, pid := ← pid.optional
             uptime := ← uptime.looseText }
    | _ => none

structure PipelineInfo where
  running : Bool
  pid : Option UInt32
  uptime : Option String
  phase : Option String
  runDir : Option String
deriving DecidableEq, Repr

def PipelineInfo.down : PipelineInfo := ⟨false, none, none, none, none⟩

instance : Wire PipelineInfo where
  toJson p := .record [always "running" p.running, always "pid" p.pid, always "uptime" p.uptime,
    always "phase" p.phase, always "run_dir" p.runDir]
  ofJson? j := do
    match ← j.slots? [["running"], ["pid"], ["uptime"], ["phase"], ["run_dir"]] with
    | [running, pid, uptime, phase, runDir] =>
      some { running := ← running.orElse false, pid := ← pid.optional
             uptime := ← uptime.looseText, phase := ← phase.optional
             runDir := ← runDir.optional }
    | _ => none

/-- Counts of the decision log. Each count is read under either of two names. -/
structure DecisionStats where
  total : UInt64
  actionSignals : UInt64
  lastTimestamp : Option String
  file : Option String
deriving DecidableEq, Repr

def DecisionStats.none : DecisionStats := ⟨0, 0, .none, .none⟩

instance : Wire DecisionStats where
  toJson d := .record [always "total_decisions" d.total, always "action_signals" d.actionSignals,
    always "last_timestamp" d.lastTimestamp, always "file" d.file]
  ofJson? j := do
    match ← j.slots? [["total_decisions", "total_count"],
      ["action_signals", "action_signal_count"], ["last_timestamp"], ["file"]] with
    | [total, signals, last, file] =>
      some { total := ← total.orElse 0, actionSignals := ← signals.orElse 0
             lastTimestamp := ← last.optional, file := ← file.optional }
    | _ => .none

structure ServiceStatus where
  gateway : ProcessInfo
  authenticated : Bool
  authUpdated : Option String
  pipeline : PipelineInfo
  decisions : DecisionStats
  timestamp : Option String
deriving DecidableEq, Repr

instance : Wire ServiceStatus where
  toJson s := .record [always "gateway" s.gateway, always "authenticated" s.authenticated,
    always "auth_updated" s.authUpdated, always "pipeline" s.pipeline,
    always "decisions" s.decisions, always "timestamp" s.timestamp]
  ofJson? j := do
    match ← j.slots? [["gateway"], ["authenticated"], ["auth_updated"], ["pipeline"],
      ["decisions"], ["timestamp"]] with
    | [gateway, authenticated, updated, pipeline, decisions, timestamp] =>
      some { gateway := ← gateway.orElse .down, authenticated := ← authenticated.orElse false
             authUpdated := ← updated.looseText, pipeline := ← pipeline.orElse .down
             decisions := ← decisions.orElse .none, timestamp := ← timestamp.looseText }
    | _ => none

end StrategyDesk
