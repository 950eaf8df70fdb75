import StrategyDesk.Error
import StrategyDesk.Strategy.Node

/-!
# Platforms

The platforms that strategies are compiled for.

## Main Definitions

* `Platform`, `Platform.parse`
* `errorPlaceholder` — what stands in place of code that could not be generated
-/

namespace StrategyDesk

/-- A platform that code is generated for. -/
inductive Platform where
  | pineScript
  | cSharp
  | mql
deriving DecidableEq, Repr

namespace Platform

def name : Platform → String
  | pineScript => "pinescript"
  | cSharp => "csharp"
  | mql => "mql"

/-- The platform under one of its names, in any case and with blanks around it. -/
def parse (typed : String) : Except Error Platform :=
  let name := lowerAscii (trim typed)
  if name = "pinescript" ∨ name = "pine" then .ok pineScript
  else if name = "csharp" ∨ name = "c#" then .ok cSharp
  else if name = "mql" then .ok mql
  else .error (.refused (.unknownPlatform name))

end Platform

instance : Wire Platform where
  toJson platform := .string platform.name
  ofJson? := Json.variant? [("pinescript", .pineScript), ("csharp", .cSharp), ("mql", .mql)]

/-- What stands in place of code that could not be generated. -/
def errorPlaceholder (message compilerUrl : String) : String :=
  "// Compilation Error:\n// " ++ message ++ "\n\n// Make sure the backend is running at "
    ++ compilerUrl

end StrategyDesk
