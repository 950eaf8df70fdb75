import StrategyDesk.Exchange.Call
import StrategyDesk.Notice
import StrategyDesk.Proofs.Json.LawfulWires

/-!
# The records that are exchanged

The wire forms of strategies, reports, configs and notices lose nothing: each field is read under
the name that it is written under, and from what it is written as.

## Design Notes

Where a record has numbers or a moment, what can be expressed is said of these parts; what is read
from the other fields can always be expressed.  All other records can express every value.
-/

namespace StrategyDesk

open Slot

/-! ## Strategies -/

instance : LawfulWire Position where
  Expressible p := Expressible p.x ∧ Expressible p.y
  read := fun ⟨x, y⟩ => Json.read_record rfl (by simp) (by simp [always, x, y])
  expressible readable read := by
    obtain ⟨slots, each, read⟩ := Json.exists_readable_slots readable read
    split at read
    · simp only [List.forall_mem_cons] at each
      simp only [Option.bind_eq_bind, Option.bind_eq_some_iff, Option.some.injEq] at read
      obtain ⟨x, y, -⟩ := each
      obtain ⟨_, x', _, y', rfl⟩ := read
      exact ⟨expressible_required x x', expressible_required y y'⟩
    · cases read

instance : LawfulWire NormalizedNode where
  Expressible n := Expressible n.position
  read position := Json.read_record rfl (by simp) (by simp [always, position])
  expressible readable read := by
    obtain ⟨slots, each, read⟩ := Json.exists_readable_slots readable read
    split at read
    · simp only [List.forall_mem_cons] at each
      simp only [Option.bind_eq_bind, Option.bind_eq_some_iff, Option.some.injEq] at read
      obtain ⟨_, _, _, _, position, -⟩ := each
      obtain ⟨_, -, _, -, _, -, _, -, _, position', rfl⟩ := read
      exact expressible_required position position'
    · cases read

instance : LawfulWire NormalizedConnection := .ofRead fun _ =>
  Json.read_record rfl (by simp) (by simp [always])

instance : Plain NormalizedConnection := ⟨fun _ => trivial⟩

instance : LawfulWire NormalizedStrategy where
  Expressible s := Expressible s.nodes
  read nodes := Json.read_record rfl (by simp) (by simp [always, whenPresent, nodes])
  expressible readable read := by
    obtain ⟨slots, each, read⟩ := Json.exists_readable_slots readable read
    split at read
    · simp only [List.forall_mem_cons] at each
      simp only [Option.bind_eq_bind, Option.bind_eq_some_iff, Option.some.injEq] at read
      obtain ⟨_, nodes, _, _, -⟩ := each
      obtain ⟨_, -, _, nodes', _, -, _, -, rfl⟩ := read
      exact expressible_required nodes nodes'
    · cases read

instance : LawfulWire Indicator := .ofRead fun _ =>
  Json.read_record rfl (by simp) (by simp [always, whenPresent])

instance : Plain Indicator := ⟨fun _ => trivial⟩

/-! ## Backtests -/

instance : LawfulWire BacktestRequest where
  Expressible r := Expressible r.strategy ∧ Expressible r.startingCash ∧
    Expressible r.slippageBps ∧ Expressible r.feeBps
  read := fun ⟨strategy, startingCash, slippageBps, feeBps⟩ =>
    Json.read_record rfl (by simp) (by simp [always, strategy, startingCash, slippageBps, feeBps])
  expressible readable read := by
    obtain ⟨slots, each, read⟩ := Json.exists_readable_slots readable read
    split at read
    · simp only [List.forall_mem_cons] at each
      simp only [Option.bind_eq_bind, Option.bind_eq_some_iff, Option.some.injEq] at read
      obtain ⟨strategy, _, _, startingCash, slippageBps, feeBps, _, -⟩ := each
      obtain ⟨_, strategy', _, -, _, -, _, startingCash', _, slippageBps', _, feeBps', _, -,
        rfl⟩ := read
      exact ⟨expressible_required strategy strategy',
        expressible_required startingCash startingCash',
        expressible_required slippageBps slippageBps', expressible_required feeBps feeBps'⟩
    · cases read

instance : LawfulWire BacktestMetrics where
  Expressible m := Expressible m.totalReturn ∧ Expressible m.maxDrawdown ∧
    Expressible m.sharpeApprox ∧ Expressible m.sharpeRatio ∧ Expressible m.startingEquity ∧
    Expressible m.endingEquity
  read := fun ⟨totalReturn, maxDrawdown, sharpeApprox, sharpeRatio, startingEquity, endingEquity⟩ =>
    Json.read_record rfl (by simp) (by simp [always, totalReturn, maxDrawdown, sharpeApprox,
      sharpeRatio, startingEquity, endingEquity])
  expressible readable read := by
    obtain ⟨slots, each, read⟩ := Json.exists_readable_slots readable read
    split at read
    · simp only [List.forall_mem_cons] at each
      simp only [Option.bind_eq_bind, Option.bind_eq_some_iff, Option.some.injEq] at read
      obtain ⟨totalReturn, maxDrawdown, sharpeApprox, sharpeRatio, startingEquity, endingEquity,
        -⟩ := each
      obtain ⟨_, totalReturn', _, maxDrawdown', _, sharpeApprox', _, sharpeRatio', _,
        startingEquity', _, endingEquity', rfl⟩ := read
      exact ⟨expressible_optional totalReturn totalReturn',
        expressible_optional maxDrawdown maxDrawdown',
        expressible_optional sharpeApprox sharpeApprox',
        expressible_optional sharpeRatio sharpeRatio',
        expressible_optional startingEquity startingEquity',
        expressible_optional endingEquity endingEquity'⟩
    · cases read

instance : LawfulWire EquityPoint where
  Expressible p := Expressible p.equity
  read equity := Json.read_record rfl (by simp) (by simp [always, equity])
  expressible readable read := by
    obtain ⟨slots, each, read⟩ := Json.exists_readable_slots readable read
    split at read
    · simp only [List.forall_mem_cons] at each
      simp only [Option.bind_eq_bind, Option.bind_eq_some_iff, Option.some.injEq] at read
      obtain ⟨_, equity, -⟩ := each
      obtain ⟨_, -, _, equity', rfl⟩ := read
      exact expressible_orElse equity rfl equity'
    · cases read

instance : LawfulWire Trade where
  Expressible t := Expressible t.qty
  read qty := Json.read_record rfl (by simp) (by simp [always, qty])
  expressible readable read := by
    obtain ⟨slots, each, read⟩ := Json.exists_readable_slots readable read
    split at read
    · simp only [List.forall_mem_cons] at each
      simp only [Option.bind_eq_bind, Option.bind_eq_some_iff, Option.some.injEq] at read
      obtain ⟨_, _, _, qty, _, -⟩ := each
      obtain ⟨_, -, _, -, _, -, _, qty', _, -, rfl⟩ := read
      exact expressible_optional qty qty'
    · cases read

/-- A report without figures can be expressed. -/
theorem expressible_metrics_none : Expressible BacktestMetrics.none :=
  ⟨expressible_none, expressible_none, expressible_none, expressible_none, expressible_none,
    expressible_none⟩

instance : LawfulWire BacktestResult where
  Expressible r := Expressible r.metrics ∧ Expressible r.equityCurve ∧ Expressible r.trades
  read := fun ⟨metrics, equityCurve, trades⟩ =>
    Json.read_record rfl (by simp) (by simp [always, metrics, equityCurve, trades])
  expressible readable read := by
    obtain ⟨slots, each, read⟩ := Json.exists_readable_slots readable read
    split at read
    · simp only [List.forall_mem_cons] at each
      simp only [Option.bind_eq_bind, Option.bind_eq_some_iff, Option.some.injEq] at read
      obtain ⟨metrics, equityCurve, trades, _, _, -⟩ := each
      obtain ⟨_, metrics', _, equityCurve', _, trades', _, -, _, -, rfl⟩ := read
      exact ⟨expressible_orElse metrics expressible_metrics_none metrics',
        expressible_orElse equityCurve expressible_nil equityCurve',
        expressible_orElse trades expressible_nil trades'⟩
    · cases read

instance : NeverNull BacktestResult := ⟨fun _ => Json.noConfusion⟩

instance : LawfulWire BacktestProgress where
  Expressible p := Expressible p.progress ∧ Expressible p.elapsed ∧ Expressible p.result
  read := fun ⟨progress, elapsed, result⟩ =>
    Json.read_record rfl (by simp) (by simp [always, progress, elapsed, result])
  expressible readable read := by
    obtain ⟨slots, each, read⟩ := Json.exists_readable_slots readable read
    split at read
    · simp only [List.forall_mem_cons] at each
      simp only [Option.bind_eq_bind, Option.bind_eq_some_iff, Option.some.injEq] at read
      obtain ⟨_, _, progress, _, elapsed, result, -⟩ := each
      obtain ⟨_, -, _, -, _, progress', _, -, _, elapsed', _, result', rfl⟩ := read
      exact ⟨expressible_optional progress progress', expressible_optional elapsed elapsed',
        expressible_optional result result'⟩
    · cases read

/-! ## Process control and status -/

instance : LawfulWire ControlReply := .ofRead fun _ =>
  Json.read_record rfl (by simp) (by simp [always])

instance : Plain ControlReply := ⟨fun _ => trivial⟩

instance : LawfulWire GatewayReport := .ofRead fun _ =>
  Json.read_record rfl (by simp) (by simp [always])

instance : Plain GatewayReport := ⟨fun _ => trivial⟩

instance : LawfulWire PipelineStart := .ofRead fun _ =>
  Json.read_record rfl (by simp) (by simp [always])

instance : Plain PipelineStart := ⟨fun _ => trivial⟩

instance : LawfulWire ProcessInfo := .ofRead fun _ =>
  Json.read_record rfl (by simp) (by simp [always])

instance : Plain ProcessInfo := ⟨fun _ => trivial⟩

instance : LawfulWire PipelineInfo := .ofRead fun _ =>
  Json.read_record rfl (by simp) (by simp [always])

instance : Plain PipelineInfo := ⟨fun _ => trivial⟩

/-- The counts are written under the first of their two names. -/
instance : LawfulWire DecisionStats := .ofRead fun stats => by
  have slots : (toJson stats).slots? [["total_decisions", "total_count"],
        ["action_signals", "action_signal_count"], ["last_timestamp"], ["file"]] =
      (toJson stats).slots? [["total_decisions"], ["action_signals"], ["last_timestamp"],
        ["file"]] :=
    Json.slots?_record_congr (by simp [always])
  show ((toJson stats).slots? _).bind _ = _
  rw [slots]
  exact Json.read_record rfl (by simp) (by simp [always])

instance : Plain DecisionStats := ⟨fun _ => trivial⟩

instance : LawfulWire ServiceStatus := .ofRead fun _ =>
  Json.read_record rfl (by simp) (by simp [always])

instance : Plain ServiceStatus := ⟨fun _ => trivial⟩

/-! ## Logs -/

instance : LawfulWire LogLevel := .ofRead fun level => by
  cases level <;> decide

instance : Plain LogLevel := ⟨fun _ => trivial⟩

instance : LawfulWire LogLine := .ofRead fun _ =>
  Json.read_record rfl (by simp) (by simp [always])

instance : Plain LogLine := ⟨fun _ => trivial⟩

instance : LawfulWire LogReply := .ofRead fun _ =>
  Json.read_record rfl (by simp) (by simp [always])

instance : Plain LogReply := ⟨fun _ => trivial⟩

instance : LawfulWire RunInfo := .ofRead fun _ =>
  Json.read_record rfl (by simp) (by simp [always])

instance : Plain RunInfo := ⟨fun _ => trivial⟩

/-! ## Configs and code -/

instance : LawfulWire ConfigSummary := .ofRead fun _ =>
  Json.read_record rfl (by simp) (by simp [always])

instance : Plain ConfigSummary := ⟨fun _ => trivial⟩

instance : LawfulWire ConfigDetail := .ofRead fun _ =>
  Json.read_record rfl (by simp) (by simp [always])

instance : Plain ConfigDetail := ⟨fun _ => trivial⟩

instance : LawfulWire ConfigBody := .ofRead fun _ =>
  Json.read_record rfl (by simp) (by simp [always])

instance : Plain ConfigBody := ⟨fun _ => trivial⟩

instance : LawfulWire NewConfig := .ofRead fun _ =>
  Json.read_record rfl (by simp) (by simp [always])

instance : Plain NewConfig := ⟨fun _ => trivial⟩

instance : LawfulWire GenerateParams where
  Expressible p := Expressible p.startingCash ∧ Expressible p.slippageBps
  read := fun ⟨startingCash, slippageBps⟩ =>
    Json.read_record rfl (by simp) (by simp [always, startingCash, slippageBps])
  expressible readable read := by
    obtain ⟨slots, each, read⟩ := Json.exists_readable_slots readable read
    split at read
    · simp only [List.forall_mem_cons] at each
      simp only [Option.bind_eq_bind, Option.bind_eq_some_iff, Option.some.injEq] at read
      obtain ⟨startingCash, slippageBps, _, -⟩ := each
      obtain ⟨_, startingCash', _, slippageBps', _, -, rfl⟩ := read
      exact ⟨expressible_required startingCash startingCash',
        expressible_required slippageBps slippageBps'⟩
    · cases read

instance : LawfulWire GraphToYaml where
  Expressible r := Expressible r.nodes ∧ Expressible r.params
  read := fun ⟨nodes, params⟩ => Json.read_record rfl (by simp) (by simp [always, nodes, params])
  expressible readable read := by
    obtain ⟨slots, each, read⟩ := Json.exists_readable_slots readable read
    split at read
    · simp only [List.forall_mem_cons] at each
      simp only [Option.bind_eq_bind, Option.bind_eq_some_iff, Option.some.injEq] at read
      obtain ⟨nodes, _, _, _, params, -⟩ := each
      obtain ⟨_, nodes', _, -, _, -, _, -, _, params', rfl⟩ := read
      exact ⟨expressible_required nodes nodes', expressible_required params params'⟩
    · cases read

instance : LawfulWire YamlReply := .ofRead fun _ =>
  Json.read_record rfl (by simp) (by simp [always])

instance : Plain YamlReply := ⟨fun _ => trivial⟩

instance : LawfulWire CodeReply := .ofRead fun _ =>
  Json.read_record rfl (by simp) (by simp [always])

instance : Plain CodeReply := ⟨fun _ => trivial⟩

/-! ## Notices -/

instance : LawfulWire NoticeKind := .ofRead fun kind => by
  cases kind <;> decide

instance : Plain NoticeKind := ⟨fun _ => trivial⟩

instance : LawfulWire Notice where
  Expressible n := Expressible n.createdAt
  read createdAt := Json.read_record rfl (by simp) (by simp [always, createdAt])
  expressible readable read := by
    obtain ⟨slots, each, read⟩ := Json.exists_readable_slots readable read
    split at read
    · simp only [List.forall_mem_cons] at each
      simp only [Option.bind_eq_bind, Option.bind_eq_some_iff, Option.some.injEq] at read
      obtain ⟨_, _, _, createdAt, -⟩ := each
      obtain ⟨_, -, _, -, _, -, _, createdAt', rfl⟩ := read
      exact expressible_required createdAt createdAt'
    · cases read

end StrategyDesk
