import StrategyDesk.Exchange.Process

/-!
# Control actions and gateway launches

What can be done to the gateway and the pipeline, how an answer is judged, and how a launch of the
gateway goes on from one report to the next.

## Main Definitions

* `ControlAction`, `ControlOutcome`, `ControlReply.outcome`
* `LaunchReply`, `ControlReply.launch` — what an answer to a start means
* `GatewayState`, `GatewayReport.state` — the state that a report puts a launch into
-/

namespace StrategyDesk

inductive ControlAction where
  | gatewayStart
  | gatewayStop
  | gatewayLogin
  | pipelineStart (config : String) (dryRun : Bool)
  | pipelineStop
deriving DecidableEq, Repr

/-- What people are told after an action. -/
structure ControlOutcome where
  ok : Bool
  message : String
deriving DecidableEq, Repr

/-- The statuses that count as success. -/
def successStatuses : List String :=
  ["started", "stopped", "authenticated", "already_running", "not_running", "launched"]

/-- An answer as an outcome; one without words is told by its status. -/
def ControlReply.outcome (r : ControlReply) : ControlOutcome where
  ok := successStatuses.contains r.status
  message :=
    match r.message with
    | some message => if message = "" then r.status else message
    | none => r.status

/-- What an answer to a gateway start means. -/
inductive LaunchReply where
  | alreadyRunning (pid : Option UInt32) (message : String)
  /-- A launch job was started, which is to be polled. -/
  | launched (jobId : String)
  | other (outcome : ControlOutcome)
deriving DecidableEq, Repr

/-- An answer to a gateway start. A launch without a job id counts as any other answer. -/
def ControlReply.launch (r : ControlReply) : LaunchReply :=
  if r.status = "launched" ∧ r.jobId.isSome ∧ r.jobId ≠ some "" then
    .launched (r.jobId.getD "")
  else if r.status = "already_running" then
    .alreadyRunning r.pid (r.message.getD "Gateway already running")
  else .other r.outcome

/-- What is known of the gateway. -/
inductive GatewayState where
  | idle
  | starting (jobId message : String)
  | running (pid : Option UInt32)
  /-- The launch script ended without the gateway being seen up. -/
  | scriptExited (message : String)
  | failed (message : String)
deriving DecidableEq, Repr

namespace GatewayState

/-- The launch has come to an end. -/
def isTerminal : GatewayState → Bool
  | running _ | scriptExited _ | failed _ => true
  | idle | starting .. => false

/-- The launch is under way. -/
def isStarting : GatewayState → Bool
  | starting .. => true
  | _ => false

end GatewayState

/-- What is said while a launch is under way. -/
def startingText : String := "Starting gateway..."

/-- The state that a report puts the launch with this id into. A gateway that runs settles it,
whatever the script does. -/
def GatewayReport.state (jobId : String) (r : GatewayReport) : GatewayState :=
  if r.gatewayRunning then .running r.gatewayPid
  else if r.status = "completed" then .scriptExited (r.message.getD "Script finished")
  else if r.status = "error" then .failed (r.message.getD "Gateway start failed")
  else .starting jobId (r.message.getD startingText)

end StrategyDesk
