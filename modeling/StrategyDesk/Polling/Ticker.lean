/-!
# Tickers

When a loop that reads something over and over starts its next read. All times are in
milliseconds.

## Main Definitions

* `Ticker` — the first tick falls due at once, the others one period after the one before
-/

namespace StrategyDesk

/-- When the next tick falls due. -/
structure Ticker where
  period : Nat
  due : Nat
deriving DecidableEq, Repr

namespace Ticker

/-- A ticker whose first tick falls due now. -/
def start (period now : Nat) : Ticker := ⟨period, now⟩

/-- How late a tick may be served without moving those after it. -/
def grace : Nat := 5

/-- The ticker after its tick was served. The next tick falls due one period after this one did;
one period after now if this one was missed. -/
def serve (t : Ticker) (now : Nat) : Ticker :=
  { t with due := (if t.due + grace < now then now else t.due) + t.period }

end Ticker

end StrategyDesk
