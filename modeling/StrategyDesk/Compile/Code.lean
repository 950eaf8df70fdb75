import StrategyDesk.Compile.Platform
import StrategyDesk.Exchange.Call

/-!
# Generated code

## Main Definitions

* `generateCode` — the code of a strategy, or comments that say why there is none
* `loadCatalog` — the indicators that can be placed
-/

namespace StrategyDesk

/-- The code of a strategy for a platform. Where none could be generated, comments say why. -/
def generateCode (compilerUrl : String) (graph : Graph) (platform : Platform) :
    Dialogue String := do
  let strategy := graph.normalize graph.displayName (some platform.name)
  match ← Dialogue.question (.compile strategy platform.name) with
  | .ok code => return code
  | .error e => return errorPlaceholder e.message compilerUrl

/-- The catalog of the compiler service, or the built-in one when it cannot be had. -/
def loadCatalog : Dialogue (List Indicator) := do
  match ← Dialogue.question .indicators with
  | .ok indicators => return indicators
  | .error _ => return builtInCatalog

end StrategyDesk
