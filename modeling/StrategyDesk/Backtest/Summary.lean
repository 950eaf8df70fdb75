import StrategyDesk.Exchange.Backtest

/-!
# Summary of a backtest

What is shown of a finished backtest: its key figures, a thinned equity curve, and its duration.

## Main Definitions

* `ResultSummary`, `BacktestResult.summary`
* `downsample` — a curve with a limited number of points
* `elapsedText` — a duration in minutes and seconds
-/

namespace StrategyDesk

/-- The key figures. -/
structure ResultSummary where
  totalReturn : Binary64
  maxDrawdown : Binary64
  sharpe : Binary64
  startingEquity : Binary64
  endingEquity : Binary64
  totalTrades : UInt64
  usedDefaultStrategy : Bool
deriving DecidableEq

instance : Wire ResultSummary where
  toJson s := .record [always "total_return" s.totalReturn, always "max_drawdown" s.maxDrawdown,
    always "sharpe" s.sharpe, always "starting_equity" s.startingEquity,
    always "ending_equity" s.endingEquity, always "total_trades" s.totalTrades,
    always "used_default_strategy" s.usedDefaultStrategy]
  ofJson? j := do
    match ← j.slots? [["total_return"], ["max_drawdown"], ["sharpe"], ["starting_equity"],
      ["ending_equity"], ["total_trades"], ["used_default_strategy"]] with
    | [total, drawdown, sharpe, starting, ending, trades, fallback] =>
      some { totalReturn := ← total.required, maxDrawdown := ← drawdown.required
             sharpe := ← sharpe.required, startingEquity := ← starting.required
             endingEquity := ← ending.required, totalTrades := ← trades.required
             usedDefaultStrategy := ← fallback.required }
    | _ => none

/-- The key figures of a result. Missing figures have defaults, and the trades are counted when
the result does not give a positive count. -/
def BacktestResult.summary (r : BacktestResult) : ResultSummary where
  totalReturn := r.metrics.totalReturn.getD (.zero false)
  maxDrawdown := r.metrics.maxDrawdown.getD (.zero false)
  sharpe := (r.metrics.sharpeApprox.or r.metrics.sharpeRatio).getD (.zero false)
  startingEquity := r.metrics.startingEquity.getD (.ofNat 10000)
  endingEquity := r.metrics.endingEquity.getD (.ofNat 10000)
  totalTrades :=
    let counted := UInt64.ofNat r.trades.length
    match r.totalTrades with
    | some n => if 0 < n then n else counted
    | none => counted
  usedDefaultStrategy := r.usedDefaultStrategy.getD false

/-- The most points of a curve that are shown. -/
def maxChartPoints : Nat := 200

/-- The items at multiples of a stride. -/
def everyNth {α : Type} (stride : Nat) (items : List α) : List α :=
  (items.zipIdx.filter fun e => e.2 % stride = 0).map (·.1)

/-- A curve of at most `limit` points: itself if it is short enough, and otherwise the points at
equal strides from the first one on, and the last point. -/
def downsample {α : Type} (curve : List α) (limit : Nat) : List α :=
  if curve.length ≤ limit then curve
  else match limit with
    | 0 => []
    | 1 => curve.drop (curve.length - 1)
    | _ =>
      let last := curve.length - 1
      let stride := (last + limit - 2) / (limit - 1)
      everyNth stride (curve.take last) ++ curve.drop last

/-- A duration. Whole seconds up to a minute; beyond that whole minutes and the seconds left,
rounded on their own. -/
def elapsedText (seconds : Binary64) : String :=
  if seconds.isNaN || seconds.le (.zero false) then "0s"
  else if seconds.lt (.ofNat 60) then s!"{seconds.roundWord 64}s"
  else
    let minutes := (seconds.div (.ofNat 60)).floorWord 64
    let rest := (seconds.rem (.ofNat 60)).roundWord 64
    s!"{minutes}m {rest}s"

end StrategyDesk
