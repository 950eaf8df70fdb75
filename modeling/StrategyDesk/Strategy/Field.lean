/-!
# Parameter fields

What may be typed into the parameter fields of a node.

## Main Definitions

* `isNumericField` — the fields that hold a decimal number
* `acceptInput` — what a field stores of a typed text, if it takes it
-/

namespace StrategyDesk

/-- The fields that hold digits and at most one decimal point. -/
def numericFields : List String :=
  ["value", "stopLoss", "takeProfit", "period", "fast", "slow", "signal", "std_dev", "k", "d"]

def isNumericField (field : String) : Bool := numericFields.contains field

/-- A typed text that a numeric field does not take. -/
structure Rejected where
  field : String
deriving DecidableEq, Repr

def Rejected.text (rejected : Rejected) : String :=
  s!"'{rejected.field}' accepts digits and at most one decimal point"

/-- An ASCII digit or the decimal point. -/
def isNumberChar (c : Char) : Bool := c.isDigit || c == '.'

/-- What a field stores of a typed text. A numeric field drops all but ASCII digits and points
and takes at most one point; every other field stores the text as it is. -/
def acceptInput (field typed : String) : Except Rejected String :=
  if isNumericField field then
    let kept := typed.toList.filter isNumberChar
    if 1 < kept.count '.' then .error ⟨field⟩ else .ok (String.ofList kept)
  else .ok typed

end StrategyDesk
