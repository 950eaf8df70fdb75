import StrategyDesk.Yaml.Value

/-!
# YAML documents

## Main Definitions

* `yamlValue?`, `isYamlDocument`
-/

namespace StrategyDesk

/-- The value of a text that is one YAML document. -/
def yamlValue? (text : String) : Option Yaml.Value := do
  (← Yaml.Node.ofTokens? (← Yaml.tokens? text)).documentValue?

/-- The text is one YAML document. -/
def isYamlDocument (text : String) : Bool := (yamlValue? text).isSome

end StrategyDesk
