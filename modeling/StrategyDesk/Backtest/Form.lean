import StrategyDesk.Error
import StrategyDesk.Exchange.Backtest
import StrategyDesk.Settings.Basic
import StrategyDesk.Text.Uppercase

/-!
# The backtest form

What people type to start a backtest, and the parameters it stands for.

## Main Definitions

* `parseSymbols` — a list of symbols with commas between them
* `BacktestForm`, `BacktestForm.parse` — the typed texts, and their meaning or why there is none
* `BacktestParams.request` — the submission for a strategy
-/

namespace StrategyDesk

/-- The symbols of a text: pieces between commas, trimmed, in uppercase, without empty ones. -/
def parseSymbols (text : String) : List String :=
  ((splitText ',' text).map fun piece => upper (trim piece)).filter (· != "")

/-- The form as typed. -/
structure BacktestForm where
  symbols : String
  years : String
  startingCash : String
  slippageBps : String
deriving DecidableEq, Repr

/-- What the form stands for. -/
structure BacktestParams where
  symbols : List String
  years : UInt32
  startingCash : Binary64
  slippageBps : Binary64
deriving DecidableEq

namespace BacktestForm

/-- The form filled in with defaults. -/
def ofDefaults (d : BacktestDefaults) : BacktestForm where
  symbols := d.symbols
  years := toString d.years
  startingCash := d.startingCash.plain
  slippageBps := d.slippageBps.plain

/-- A finite number with blanks around it allowed. -/
def parseNumber (field typed : String) : Except Error Binary64 :=
  match Binary64.parse? (trimChars typed.toList) with
  | some x => if x.isFinite then .ok x else .error (.refused (.notANumber field typed))
  | none => .error (.refused (.notANumber field typed))

/-- A positive number of years with blanks around it allowed. -/
def parseYears (typed : String) : Except Error UInt32 :=
  match parseWord? (wordSize 32) (trimChars typed.toList) with
  | some n => if 0 < n then .ok (.ofNat n) else .error (.refused (.badYears typed))
  | none => .error (.refused (.badYears typed))

/-- The parameters; of several faults the first in the order of the fields is reported. -/
def parse (form : BacktestForm) : Except Error BacktestParams := do
  let symbols := parseSymbols form.symbols
  if symbols.isEmpty then throw (.refused .noSymbols)
  let years ← parseYears form.years
  let cash ← parseNumber "Starting cash" form.startingCash
  let slippage ← parseNumber "Slippage (bps)" form.slippageBps
  return ⟨symbols, years, cash, slippage⟩

end BacktestForm

/-- The submission of a strategy, on daily bars and without a fee. -/
def BacktestParams.request (params : BacktestParams) (graph : Graph) : BacktestRequest where
  strategy := graph.normalize graph.displayName none
  symbols := params.symbols
  years := params.years
  startingCash := params.startingCash
  slippageBps := params.slippageBps
  feeBps := .zero false
  interval := "1d"

end StrategyDesk
