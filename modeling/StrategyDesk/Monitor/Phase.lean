import StrategyDesk.Exchange.Status

/-!
# Pipeline phases and controls

## Main Definitions

* `PipelinePhase` — what the pipeline is doing, with its label
* `Controls` — which actions make sense for a status
-/

namespace StrategyDesk

inductive PipelinePhase where
  | idle
  | starting
  | resolving
  | warmup
  | fetching
  | processing
  | fitting
  | risk
  | executing
  | running
  | unknown
deriving DecidableEq, Repr

namespace PipelinePhase

/-- The phases under the names that the engine reports. -/
def names : List (String × PipelinePhase) :=
  [("", idle), ("idle", idle), ("starting", starting), ("resolving", resolving),
   ("warmup", warmup), ("fetching", fetching), ("processing", processing), ("fitting", fitting),
   ("risk", risk), ("executing", executing), ("running", running)]

/-- The phase of a report; none at all reads as idle. -/
def ofReport (reported : Option String) : PipelinePhase :=
  (names.lookup (reported.getD "idle")).getD unknown

def label : PipelinePhase → String
  | idle => "IDLE"
  | starting => "STARTING"
  | resolving => "RESOLVING CONIDS"
  | warmup => "SNAPSHOT WARMUP"
  | fetching => "FETCHING DATA"
  | processing => "PROCESSING"
  | fitting => "MODEL FITTING"
  | risk => "RISK EVALUATION"
  | executing => "EXECUTING ORDERS"
  | running => "RUNNING"
  | unknown => "UNKNOWN"

end PipelinePhase

/-- The actions that make sense. -/
structure Controls where
  startGateway : Bool
  stopGateway : Bool
  login : Bool
  startPipeline : Bool
  stopPipeline : Bool
deriving DecidableEq, Repr

/-- The actions that make sense for a status; none at all reads as everything being down. -/
def Controls.of (status : Option ServiceStatus) : Controls :=
  let gatewayUp := (status.map (·.gateway.running)).getD false
  let authenticated := (status.map (·.authenticated)).getD false
  let pipelineUp := (status.map (·.pipeline.running)).getD false
  { startGateway := !gatewayUp
    stopGateway := gatewayUp
    login := gatewayUp && !authenticated
    startPipeline := !pipelineUp
    stopPipeline := pipelineUp }

end StrategyDesk
