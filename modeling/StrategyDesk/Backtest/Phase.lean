/-!
# Phases of a backtest

## Main Definitions

* `BacktestPhase` — the phases in their order
* `BacktestPhase.standing` — where a phase stands when another one is reported
-/

namespace StrategyDesk

/-- The phases that the engine walks through. -/
inductive BacktestPhase where
  | converting
  | downloading
  | processing
  | indicators
  | risk
  | backtesting
  | results
deriving DecidableEq, Repr

/-- Where a phase stands. -/
inductive PhaseStanding where
  | done
  | current
  | pending
deriving DecidableEq, Repr

namespace BacktestPhase

/-- All phases, in order. -/
def all : List BacktestPhase :=
  [converting, downloading, processing, indicators, risk, backtesting, results]

def name : BacktestPhase → String
  | converting => "converting"
  | downloading => "downloading"
  | processing => "processing"
  | indicators => "indicators"
  | risk => "risk"
  | backtesting => "backtesting"
  | results => "results"

def ofName? (text : String) : Option BacktestPhase := all.find? (·.name == text)

/-- The place in the order. -/
def index (phase : BacktestPhase) : Nat := all.idxOf phase

/-- Where a phase stands when a phase is reported. A report of completion puts all phases behind;
an unknown report, or none, puts all ahead. -/
def standing (phase : BacktestPhase) (reported : Option String) : PhaseStanding :=
  match reported with
  | none => .pending
  | some text =>
    if text = "completed" then .done
    else match ofName? text with
      | none => .pending
      | some current =>
        if phase.index < current.index then .done
        else if phase = current then .current
        else .pending

end BacktestPhase

end StrategyDesk
