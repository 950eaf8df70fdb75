import StrategyDesk.Number.Shortest
import StrategyDesk.Strategy.Normalized

/-!
# Backtest messages

What is sent to start a backtest, and what the engine reports about one.

## Main Definitions

* `BacktestRequest`, `BacktestProgress`
* `BacktestResult`, with its `BacktestMetrics`, `EquityPoint`s and `Trade`s
-/

namespace StrategyDesk

/-- A submission. -/
structure BacktestRequest where
  strategy : NormalizedStrategy
  symbols : List String
  years : UInt32
  startingCash : Binary64
  slippageBps : Binary64
  feeBps : Binary64
  interval : String
deriving DecidableEq

instance : Wire BacktestRequest where
  toJson r := .record [always "strategy" r.strategy, always "symbols" r.symbols,
    always "years" r.years, always "starting_cash" r.startingCash,
    always "slippage_bps" r.slippageBps, always "fee_bps" r.feeBps, always "interval" r.interval]
  ofJson? j := do
    match ← j.slots? [["strategy"], ["symbols"], ["years"], ["starting_cash"], ["slippage_bps"],
      ["fee_bps"], ["interval"]] with
    | [strategy, symbols, years, cash, slippage, fee, interval] =>
      some { strategy := ← strategy.required, symbols := ← symbols.required
             years := ← years.required, startingCash := ← cash.required
             slippageBps := ← slippage.required, feeBps := ← fee.required
             interval := ← interval.required }
    | _ => none

structure BacktestMetrics where
  totalReturn : Option Binary64
  maxDrawdown : Option Binary64
  sharpeApprox : Option Binary64
  sharpeRatio : Option Binary64
  startingEquity : Option Binary64
  endingEquity : Option Binary64
deriving DecidableEq

def BacktestMetrics.none : BacktestMetrics := ⟨.none, .none, .none, .none, .none, .none⟩

instance : Wire BacktestMetrics where
  toJson m := .record [always "total_return" m.totalReturn, always "max_drawdown" m.maxDrawdown,
    always "sharpe_approx" m.sharpeApprox, always "sharpe_ratio" m.sharpeRatio,
    always "starting_equity" m.startingEquity, always "ending_equity" m.endingEquity]
  ofJson? j := do
    match ← j.slots? [["total_return"], ["max_drawdown"], ["sharpe_approx"], ["sharpe_ratio"],
      ["starting_equity"], ["ending_equity"]] with
    | [total, drawdown, approx, ratio, starting, ending] =>
      some { totalReturn := ← total.optional, maxDrawdown := ← drawdown.optional
             sharpeApprox := ← approx.optional, sharpeRatio := ← ratio.optional
             startingEquity := ← starting.optional, endingEquity := ← ending.optional }
    | _ => .none

/-- A point of the equity curve. -/
structure EquityPoint where
  ts : Option String
  equity : Binary64
deriving DecidableEq

instance : Wire EquityPoint where
  toJson p := .record [always "ts" p.ts, always "equity" p.equity]
  ofJson? j := do
    match ← j.slots? [["ts"], ["equity"]] with
    | [ts, equity] => some { ts := ← ts.looseText, equity := ← equity.orElse (.zero false) }
    | _ => none

structure Trade where
  ts : Option String
  symbol : Option String
  action : Option String
  qty : Option Binary64
  /-- As sent, a number or its text. -/
  price : Option String
deriving DecidableEq

instance : Wire Trade where
  toJson t := .record [always "ts" t.ts, always "symbol" t.symbol, always "action" t.action,
    always "qty" t.qty, always "price" t.price]
  ofJson? j := do
    match ← j.slots? [["ts"], ["symbol"], ["action"], ["qty"], ["price"]] with
    | [ts, symbol, action, qty, price] =>
      some { ts := ← ts.looseText, symbol := ← symbol.optional, action := ← action.optional
             qty := ← qty.optional, price := ← price.looseText }
    | _ => none

namespace Trade

/-- The price as a number; one that cannot be read is zero. -/
def priceValue (t : Trade) : Binary64 :=
  (t.price.bind fun p => Binary64.parse? p.toList).getD (.zero false)

/-- The time stamp up to its first blank. -/
def date (t : Trade) : String :=
  String.ofList ((t.ts.getD "").toList.takeWhile (· != ' '))

end Trade

structure BacktestResult where
  metrics : BacktestMetrics
  equityCurve : List EquityPoint
  trades : List Trade
  totalTrades : Option UInt64
  usedDefaultStrategy : Option Bool
deriving DecidableEq

instance : Wire BacktestResult where
  toJson r := .record [always "metrics" r.metrics, always "equity_curve" r.equityCurve,
    always "trades" r.trades, always "total_trades" r.totalTrades,
    always "used_default_strategy" r.usedDefaultStrategy]
  ofJson? j := do
    match ← j.slots? [["metrics"], ["equity_curve"], ["trades"], ["total_trades"],
      ["used_default_strategy"]] with
    | [metrics, curve, trades, total, fallback] =>
      some { metrics := ← metrics.orElse .none, equityCurve := ← curve.orElse []
             trades := ← trades.orElse [], totalTrades := ← total.optional
             usedDefaultStrategy := ← fallback.optional }
    | _ => none

/-- One report on a running backtest; each part of it may be absent. -/
structure BacktestProgress where
  status : String
  phase : Option String
  progress : Option Binary64
  message : Option String
  elapsed : Option Binary64
  result : Option BacktestResult
deriving DecidableEq

instance : Wire BacktestProgress where
  toJson p := .record [always "status" p.status, always "phase" p.phase,
    always "progress" p.progress, always "message" p.message, always "elapsed" p.elapsed,
    always "result" p.result]
  ofJson? j := do
    match ← j.slots? [["status"], ["phase"], ["progress"], ["message"], ["elapsed"],
      ["result"]] with
    | [status, phase, progress, message, elapsed, result] =>
      some { status := ← status.orElse "", phase := ← phase.optional
             progress := ← progress.optional, message := ← message.optional
             elapsed := ← elapsed.optional, result := ← result.optional }
    | _ => none

end StrategyDesk
