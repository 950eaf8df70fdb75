import Mathlib.Data.List.Forall2
import StrategyDesk.Compile.Code
import StrategyDesk.Configs.Store
import StrategyDesk.Proofs.Backtest.Execution
import StrategyDesk.Proofs.Json.KeyMaps

/-!
# What is sent of a strategy

Every node and every edge of a strategy has its counterpart in the normalized form, in the same
order.  The parameters of a normalized node are told key by key: what the node's nested parameters
hold, or else its data, under any key that is not reserved.  All three requests that carry a
strategy carry the same nodes and connections.

## Main Definitions

* `Node.Normalized`, `Edge.Connected` — the counterpart of a node, and of an edge
* `Sending` — the ways in which a strategy is sent to a service
* `Sending.calls`, `Sending.isMade` — the calls made by it, and whether it comes to one
* `Call.drawing?` — the nodes and connections that a call carries

## Main Statements

* `Node.get?_normalizedParameters` — the parameters of a normalized node, key by key
* `Sending.calls_map_drawing?` — every way of sending carries the nodes and connections of the
  normalized form
* `Graph.normalize_same_everywhere` — the normalized form is faithful, and is what is sent
-/

namespace StrategyDesk

/-! ## Nodes and edges -/

namespace Node

/-- The counterpart of a node. -/
structure Normalized (node : Node) (counterpart : NormalizedNode) : Prop where
  id : counterpart.id = node.id
  position : counterpart.position = node.position
  named : counterpart.name ≠ ""
  parameters (key : String) : counterpart.parameters.get? key =
    if key = labelKey ∨ key = callbackKey ∨ key = parametersKey then none else node.param? key

/-- A normalized node has no parameter under a reserved key, and under any other key the one that
the node has. -/
theorem get?_normalizedParameters (node : Node) (key : String) :
    node.normalizedParameters.get? key =
      if key = labelKey ∨ key = callbackKey ∨ key = parametersKey then none
      else node.param? key := by
  unfold normalizedParameters
  rw [KeyMap.get?_filterKeys, KeyMap.get?_overlay]
  by_cases reserved : key = labelKey ∨ key = callbackKey ∨ key = parametersKey
  · have dropped : reservedKeys.contains key = true := by simpa [reservedKeys] using reserved
    rw [if_pos reserved, dropped]
    rfl
  · have admitted : reservedKeys.contains key = false := by simpa [reservedKeys] using reserved
    rw [if_neg reserved, admitted]
    rfl

theorem normalizedName_ne_empty (node : Node) : node.normalizedName ≠ "" := by
  have fallback : normalizedName.fallback node ≠ "" := by
    unfold normalizedName.fallback
    split
    · decide
    · intro empty
      have parts : "Action " = "" ∧ node.side?.getD "" = "" := String.append_eq_empty_iff.mp empty
      exact absurd parts.1 (by decide)
    · decide
  unfold normalizedName
  split
  · split
    · exact fallback
    · next given => exact given
  · exact fallback

theorem normalized_normalize (node : Node) : node.Normalized node.normalize where
  id := rfl
  position := rfl
  named := node.normalizedName_ne_empty
  parameters := node.get?_normalizedParameters

end Node

/-- The counterpart of an edge, which may lead nowhere just as well. -/
structure Edge.Connected (edge : Edge) (counterpart : NormalizedConnection) : Prop where
  source : counterpart.source = edge.source
  target : counterpart.target = edge.target
  sourceHandle : counterpart.sourceHandle = edge.sourceHandle
  targetHandle : counterpart.targetHandle = edge.targetHandle

theorem Edge.connected_normalize (edge : Edge) : edge.Connected edge.normalize :=
  ⟨rfl, rfl, rfl, rfl⟩

/-! ## Requests -/

/-- The nodes and connections that a call carries, if it carries a strategy. -/
def Call.drawing? : Call → Option (List NormalizedNode × List NormalizedConnection)
  | compile strategy _ => some (strategy.nodes, strategy.connections)
  | submitBacktest request => some (request.strategy.nodes, request.strategy.connections)
  | graphToYaml request => some (request.nodes, request.connections)
  | indicators | backtestProgress _ | status | logs .. | logRuns | gatewayStart | gatewayStop
  | gatewayLogin | gatewayJob _ | pipelineStart _ | pipelineStop | listConfigs | getConfig _
  | updateConfig .. | createConfig _ | deleteConfig _ => none

/-- The ways in which a strategy is sent to a service. -/
inductive Sending where
  /-- To have its code generated. -/
  | code (compilerUrl : String) (platform : Platform)
  /-- To have it backtested, by a runner that nobody waits for. -/
  | backtest (runner : BacktestRunner) (params : BacktestParams)
  /-- To have it turned into a config. -/
  | config (name : Option String) (symbols : String) (params : GenerateParams)

namespace Sending

/-- The calls made in sending a strategy, when every call is replied to by a function. -/
def calls (graph : Graph) (reply : (call : Call) → Reply call) : Sending → List Call
  | code compilerUrl platform => ((generateCode compilerUrl graph platform).trace reply).1
  | backtest runner params =>
    ((BacktestExecution.mk runner .free).step? (.run (params.request graph))).elim [] (·.2)
  | config name symbols params => ((generateConfig graph name symbols params).trace reply).1

/-- Code is always asked for, a backtest is submitted when none is running, and a config is asked
for when there is more to the strategy than one node. -/
def isMade (graph : Graph) : Sending → Bool
  | code .. => true
  | backtest runner _ => !(runner.isPolling && runner.slot.isActive)
  | config .. => 1 < graph.nodes.length

/-- **Every way of sending a strategy carries the nodes and connections of its normalized form**, in
one call, if it comes to a call. -/
theorem calls_map_drawing? (graph : Graph) (reply : (call : Call) → Reply call)
    (sending : Sending) :
    (sending.calls graph reply).map Call.drawing? =
      if sending.isMade graph then
        [some (graph.nodes.map Node.normalize, graph.edges.map Edge.normalize)]
      else [] := by
  cases sending with
  | code compilerUrl platform =>
      show ((generateCode compilerUrl graph platform).trace reply).1.map Call.drawing? = [_]
      simp only [generateCode, bind, Dialogue.question, Dialogue.bind, Dialogue.trace]
      split <;> rfl
  | backtest runner params =>
      cases begun : runner.begin with
      | error e =>
          obtain ⟨-, polls, active⟩ := BacktestRunner.begin_eq_error_iff.mp begun
          simp [calls, isMade, BacktestExecution.step?, begun, polls, active]
      | ok ready =>
          have made : (backtest runner params).isMade graph = true := by
            by_contra unmade
            have running : runner.isPolling = true ∧ runner.slot.isActive = true := by
              simpa [isMade] using unmade
            have refused := BacktestRunner.begin_eq_error_iff.mpr ⟨rfl, running⟩
            rw [begun] at refused
            cases refused
          rw [made]
          simp [calls, BacktestExecution.step?, begun, Call.drawing?, BacktestParams.request,
            Graph.normalize]
  | config name symbols params =>
      by_cases small : graph.nodes.length ≤ 1
      · have unmade : (config name symbols params).isMade graph = false := by
          simpa [isMade] using small
        rw [unmade]
        simp [calls, generateConfig, generateRequest, small, Dialogue.trace]
      · have made : (config name symbols params).isMade graph = true := by
          simpa [isMade] using small
        rw [made]
        simp [calls, generateConfig, generateRequest, small, Dialogue.question, Dialogue.trace,
          Call.drawing?, Graph.normalize]

end Sending

/-- **The normalized form of a strategy is faithful, and is what is sent.**  It has one node for
each node and one connection for each edge, in the same order.  Whatever the name and the platform
it is made for, its nodes and connections are those that a compilation, a backtest and the
generation of a config carry. -/
theorem Graph.normalize_same_everywhere (graph : Graph) (name : String)
    (platform : Option String) :
    List.Forall₂ Node.Normalized graph.nodes (graph.normalize name platform).nodes ∧
      List.Forall₂ Edge.Connected graph.edges (graph.normalize name platform).connections ∧
      ∀ (sending : Sending) (reply : (call : Call) → Reply call),
        (sending.calls graph reply).map Call.drawing? =
          if sending.isMade graph then
            [some ((graph.normalize name platform).nodes,
              (graph.normalize name platform).connections)]
          else [] := by
  refine ⟨?_, ?_, fun sending reply => sending.calls_map_drawing? graph reply⟩
  · exact List.forall₂_map_right_iff.mpr
      (List.forall₂_same.mpr fun node _ => node.normalized_normalize)
  · exact List.forall₂_map_right_iff.mpr
      (List.forall₂_same.mpr fun edge _ => edge.connected_normalize)

end StrategyDesk
