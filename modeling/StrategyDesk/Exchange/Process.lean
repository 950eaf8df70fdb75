import StrategyDesk.Json.Wire

/-!
# Process control messages

What is sent to control the gateway and the pipeline, and what the engine answers.

## Main Definitions

* `ControlReply` — the answer to any control request
* `GatewayReport` — a report on a gateway launch
* `PipelineStart` — the request to start the pipeline
-/

namespace StrategyDesk

/-- The answer to any control request. -/
structure ControlReply where
  status : String
  message : Option String
  jobId : Option String
  pid : Option UInt32
deriving DecidableEq, Repr

instance : Wire ControlReply where
  toJson r := .record [always "status" r.status, always "message" r.message,
    always "job_id" r.jobId, always "pid" r.pid]
  ofJson? j := do
    match ← j.slots? [["status"], ["message"], ["job_id"], ["pid"]] with
    | [status, message, jobId, pid] =>
      some { status := ← status.orElse "", message := ← message.optional
             jobId := ← jobId.looseText, pid := ← pid.optional }
    | _ => none

/-- A report on a gateway launch. -/
structure GatewayReport where
  status : String
  message : Option String
  gatewayRunning : Bool
  gatewayPid : Option UInt32
deriving DecidableEq, Repr

instance : Wire GatewayReport where
  toJson r := .record [always "status" r.status, always "message" r.message,
    always "gateway_running" r.gatewayRunning, always "gateway_pid" r.gatewayPid]
  ofJson? j := do
    match ← j.slots? [["status"], ["message"], ["gateway_running"], ["gateway_pid"]] with
    | [status, message, running, pid] =>
      some { status := ← status.orElse "", message := ← message.optional
             gatewayRunning := ← running.orElse false, gatewayPid := ← pid.optional }
    | _ => none

/-- The request to start the pipeline with a stored config. -/
structure PipelineStart where
  config : String
  dryRun : Bool
deriving DecidableEq, Repr

instance : Wire PipelineStart where
  toJson r := .record [always "config" r.config, always "dry_run" r.dryRun]
  ofJson? j := do
    match ← j.slots? [["config"], ["dry_run"]] with
    | [config, dryRun] => some { config := ← config.required, dryRun := ← dryRun.required }
    | _ => none

end StrategyDesk
