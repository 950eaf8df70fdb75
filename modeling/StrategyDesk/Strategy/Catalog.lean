import StrategyDesk.Json.Wire

/-!
# Indicator catalog

The indicators that can be placed in a strategy.

## Main Definitions

* `Indicator` — an entry of the catalog
* `builtInCatalog` — the catalog used when the service has none to offer
-/

namespace StrategyDesk

/-- An entry of the indicator catalog. -/
structure Indicator where
  id : String
  name : String
  category : String
  /-- Defaults of the parameters. -/
  defaults : Option ParamMap
  /-- Explicit starting parameters, which some catalogs have instead. -/
  parameters : Option ParamMap
deriving DecidableEq

namespace Indicator

/-- The parameters that a newly placed indicator starts with. -/
def startingParams (i : Indicator) : ParamMap := (i.parameters.or i.defaults).getD .empty

end Indicator

instance : Wire Indicator where
  toJson i := .record [always "id" i.id, always "name" i.name, always "category" i.category,
    whenPresent "default_params" i.defaults, whenPresent "parameters" i.parameters]
  ofJson? j := do
    match ← j.slots? [["id"], ["name"], ["category"], ["default_params"], ["parameters"]] with
    | [id, name, category, defaults, parameters] =>
      some { id := ← id.required, name := ← name.required, category := ← category.orElse ""
             defaults := ← defaults.optional, parameters := ← parameters.optional }
    | _ => none

/-- The catalog used when the compiler service cannot be asked. -/
def builtInCatalog : List Indicator :=
  [⟨"rsi", "RSI", "momentum", none, none⟩,
   ⟨"macd", "MACD", "trend", none, none⟩,
   ⟨"sma", "SMA", "trend", none, none⟩,
   ⟨"ema", "EMA", "trend", none, none⟩,
   ⟨"bollinger", "Bollinger Bands", "volatility", none, none⟩]

end StrategyDesk
