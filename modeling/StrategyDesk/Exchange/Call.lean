import StrategyDesk.Exchange.Backtest
import StrategyDesk.Exchange.Configs
import StrategyDesk.Exchange.Logs
import StrategyDesk.Exchange.Process
import StrategyDesk.Exchange.Status
import StrategyDesk.Error
import StrategyDesk.Strategy.Catalog

/-!
# Calls

Everything that the two services can be asked, and conversations made of such questions.

## Main Definitions

* `Call`, `Call.Answer` — a question, and what it is answered with
* `Dialogue` — a computation that asks questions on its way
-/

namespace StrategyDesk

/-- A question to one of the services. -/
inductive Call where
  | indicators
  | compile (strategy : NormalizedStrategy) (platform : String)
  | submitBacktest (request : BacktestRequest)
  | backtestProgress (jobId : String)
  | status
  | logs (source : String) (lines : Nat)
  | logRuns
  | gatewayStart
  | gatewayStop
  | gatewayLogin
  | gatewayJob (jobId : String)
  | pipelineStart (request : PipelineStart)
  | pipelineStop
  | listConfigs
  | getConfig (name : String)
  | updateConfig (name yaml : String)
  | createConfig (config : NewConfig)
  | deleteConfig (name : String)
  | graphToYaml (request : GraphToYaml)
deriving DecidableEq

namespace Call

/-- What a question is answered with. -/
def Answer : Call → Type
  | indicators => List Indicator
  | compile .. => String
  | submitBacktest _ => String
  | backtestProgress _ => BacktestProgress
  | status => ServiceStatus
  | logs .. => List LogLine
  | logRuns => List RunInfo
  | gatewayStart | gatewayStop | gatewayLogin | pipelineStart _ | pipelineStop => ControlReply
  | gatewayJob _ => GatewayReport
  | listConfigs => List ConfigSummary
  | getConfig _ => ConfigDetail
  | updateConfig .. | createConfig _ | deleteConfig _ => Unit
  | graphToYaml _ => String

/-- Answers have a written form. -/
instance (c : Call) : Wire c.Answer :=
  match c with
  | indicators => inferInstanceAs (Wire (List Indicator))
  | compile .. | submitBacktest _ | graphToYaml _ => inferInstanceAs (Wire String)
  | backtestProgress _ => inferInstanceAs (Wire BacktestProgress)
  | status => inferInstanceAs (Wire ServiceStatus)
  | logs .. => inferInstanceAs (Wire (List LogLine))
  | logRuns => inferInstanceAs (Wire (List RunInfo))
  | gatewayStart | gatewayStop | gatewayLogin | pipelineStart _ | pipelineStop =>
    inferInstanceAs (Wire ControlReply)
  | gatewayJob _ => inferInstanceAs (Wire GatewayReport)
  | listConfigs => inferInstanceAs (Wire (List ConfigSummary))
  | getConfig _ => inferInstanceAs (Wire ConfigDetail)
  | updateConfig .. | createConfig _ | deleteConfig _ => inferInstanceAs (Wire Unit)

/-- The name of a question. -/
def method : Call → String
  | indicators => "indicators"
  | compile .. => "compile"
  | submitBacktest _ => "submit_backtest"
  | backtestProgress _ => "backtest_progress"
  | status => "status"
  | logs .. => "logs"
  | logRuns => "log_runs"
  | gatewayStart => "gateway_start"
  | gatewayStop => "gateway_stop"
  | gatewayLogin => "gateway_login"
  | gatewayJob _ => "gateway_job"
  | pipelineStart _ => "pipeline_start"
  | pipelineStop => "pipeline_stop"
  | listConfigs => "list_configs"
  | getConfig _ => "get_config"
  | updateConfig .. => "update_config"
  | createConfig _ => "create_config"
  | deleteConfig _ => "delete_config"
  | graphToYaml _ => "graph_to_yaml"

end Call

/-- What comes back for a question. -/
abbrev Reply (c : Call) : Type := Except Error c.Answer

/-- A computation that asks questions on its way. -/
inductive Dialogue (α : Type) where
  | done (result : α)
  | ask (call : Call) (next : Reply call → Dialogue α)

namespace Dialogue

variable {α β : Type}

/-- Goes on with the result of a dialogue. -/
def bind (d : Dialogue α) (next : α → Dialogue β) : Dialogue β :=
  match d with
  | done a => next a
  | ask call reply => ask call fun r => (reply r).bind next

instance : Monad Dialogue where
  pure := done
  bind := bind

/-- One question, and its reply as the result. -/
def question (call : Call) : Dialogue (Reply call) := ask call done

/-- The calls that a dialogue makes and its result, when every call is replied to by a function. -/
def trace (reply : (c : Call) → Reply c) : Dialogue α → List Call × α
  | done a => ([], a)
  | ask call next =>
    let (calls, a) := (next (reply call)).trace reply
    (call :: calls, a)

end Dialogue

end StrategyDesk
