import StrategyDesk.Yaml.Node

/-!
# Values

What a YAML document stands for: its aliases replaced, and its scalars read as what their texts and
tags say.

## Main Definitions

* `Value`, `Value.same` — values, and when two of them are the same key
* `plainValue?`, `scalarValue?` — the values of scalars
* `Node.value?` — the value of a node
-/

namespace StrategyDesk.Yaml

inductive Value where
  | null
  | bool (b : Bool)
  | int (n : Int)
  | float (x : Binary64)
  | text (s : String)
  | sequence (items : List Value)
  | mapping (entries : List (Value × Value))
  | tagged (tag : String) (value : Value)

namespace Value

mutual

/-- Two values are the same as keys. All not-a-numbers are the same, and mappings do not depend on
the order of their entries. -/
def same : Value → Value → Bool
  | .null, .null => true
  | .bool a, .bool b => a == b
  | .int a, .int b => a == b
  | .float a, .float b => a.beq b || (a.isNaN && b.isNaN)
  | .text a, .text b => a == b
  | .sequence a, .sequence b => sameItems a b
  | .mapping a, .mapping b => a.length == b.length && entriesWithin a b
  | .tagged t a, .tagged u b => t == u && a.same b
  | _, _ => false

def sameItems : List Value → List Value → Bool
  | [], [] => true
  | a :: as, b :: bs => a.same b && sameItems as bs
  | _, _ => false

/-- Each entry of the first list has its like in the second. -/
def entriesWithin : List (Value × Value) → List (Value × Value) → Bool
  | [], _ => true
  | (key, value) :: entries, others =>
    others.any (fun other => key.same other.1 && value.same other.2) && entriesWithin entries others

end

end Value

/-! ## Scalars -/

def nullWords : List String := ["null", "Null", "NULL", "~"]

def boolWord? (text : String) : Option Bool :=
  if text ∈ ["true", "True", "TRUE"] then some true
  else if text ∈ ["false", "False", "FALSE"] then some false
  else none

/-- Digits that begin with a needless zero are no number. -/
def isPadded (digits : List Char) : Bool :=
  1 < digits.length && digits.head? == some '0' && digits.all Char.isDigit

/-- A text less its sign, and whether that is a minus. -/
def splitSign : List Char → Bool × List Char
  | '-' :: rest => (true, rest)
  | '+' :: rest => (false, rest)
  | text => (false, text)

/-- A whole number: a sign, the mark of a base other than ten, and digits. -/
def wholeNumber? (text : List Char) : Option Int := do
  let (negative, body) := splitSign text
  let (base, digits) := match body with
    | '0' :: 'x' :: digits => (16, digits)
    | '0' :: 'o' :: digits => (8, digits)
    | '0' :: 'b' :: digits => (2, digits)
    | digits => (10, digits)
  if digits.isEmpty ∨ (base = 10 ∧ isPadded digits) then none
  else
    let magnitude : Nat ← digitsInBase? base digits
    some (if negative then -(magnitude : Int) else magnitude)

/-- A whole number as a value. The answer is `none` for a text that is none, and `some none` for
one that needs more than a word. A number of more than two words is read as a decimal one. -/
def intValue? (text : List Char) : Option (Option Value) := do
  let n ← wholeNumber? text
  if -(wordSize 63 : Int) ≤ n ∧ n < wordSize 64 then some (some (.int n))
  else if -(wordSize 127 : Int) ≤ n ∧ n < wordSize 128 then some none
  else none

/-- A decimal number, or a word for infinity or not-a-number. -/
def floatValue? (text : String) : Option Value :=
  if text ∈ [".inf", ".Inf", ".INF", "+.inf", "+.Inf", "+.INF"] then some (.float (.infinite false))
  else if text ∈ ["-.inf", "-.Inf", "-.INF"] then some (.float (.infinite true))
  else if text ∈ [".nan", ".NaN", ".NAN"] then some (.float .nan)
  else ((Binary64.parse? text.toList).filter Binary64.isFinite).map .float

/-- The value of a plain scalar that is not tagged. -/
def plainValue? (text : String) : Option Value :=
  if text = "" ∨ text ∈ nullWords then some .null
  else if let some b := boolWord? text then some (.bool b)
  else if let some value := intValue? text.toList then value
  else if isPadded (splitSign text.toList).2 then some (.text text)
  else some ((floatValue? text).getD (.text text))

/-- The value of a scalar. The tags of the basic types must fit the text; other tags but local ones
make it a text. -/
def scalarValue? (tag : Option String) (text : String) (plain : Bool) : Option Value :=
  let untagged := if plain then plainValue? text else some (.text text)
  match tag with
  | none => untagged
  | some "tag:yaml.org,2002:bool" => (boolWord? text).map .bool
  | some "tag:yaml.org,2002:int" => (intValue? text.toList).join
  | some "tag:yaml.org,2002:float" => floatValue? text
  | some "tag:yaml.org,2002:null" => if text ∈ nullWords then some .null else none
  | some tag => if tag.startsWith "!" then untagged else some (.text text)

/-! ## Nodes -/

/-- The name that a local tag gives to a value; it must not be empty. A second exclamation mark
before a name does not count. -/
def localTag? (tag : String) : Option (Option String) :=
  match tag.toList with
  | ['!'] => none
  | '!' :: '!' :: c :: rest => some (some (String.ofList (c :: rest)))
  | '!' :: name => some (some (String.ofList name))
  | _ => some none

/-- The entries with one more, whose key must be new. -/
def addEntry? (entries : List (Value × Value)) (entry : Value × Value) :
    Option (List (Value × Value)) :=
  if entries.any fun other => other.1.same entry.1 then none else some (entries ++ [entry])

/-- Gives a value the name of its local tag. -/
def withTag? (tag : Option String) (value : Value) : Option Value := do
  match ← (tag.map localTag?).getD (some none) with
  | some name => some (.tagged name value)
  | none => some value

namespace Node

/-- How many steps reading a node takes, those inside it apart. -/
def steps : Node → Nat
  | .scalar .. | .alias _ => 1
  | .sequence .. | .mapping .. => 2

/-- The value of a node whose collections nest at most `depth` deep. `targets` has the node of each
anchor. The state is how many aliases may still be followed. The tag of a key is passed over
(`bare`) in a mapping that has one itself. -/
def value? (targets : List (Nat × Node)) (depth : Nat) (bare : Bool) (node : Node) :
    StateT Nat Option Value := do
  let follow (number : Nat) : StateT Nat Option Node := do
    match ← get with
    | 0 => failure
    | left + 1 =>
      set left
      targets.lookup number
  let (node, bare) ← match node with
    | .alias number => do pure (← follow number, false)
    | node => pure (node, bare)
  let shownTag (properties : Properties) : Option String :=
    if bare then none else properties.tag
  match node, depth with
  | .scalar properties text plain, _ =>
    let tag := shownTag properties
    withTag? tag (← scalarValue? tag text plain)
  | .sequence properties items, depth + 1 =>
    let items ← items.mapM (value? targets depth false)
    withTag? (shownTag properties) (.sequence items)
  | .mapping properties entries, depth + 1 =>
    let isTagged := bare || (properties.tag.map (·.startsWith "!")).getD false
    let entries ← entries.foldlM (fun read (key, value) => do
      let key ← value? targets depth isTagged key
      let value ← value? targets depth false value
      addEntry? read (key, value)) []
    withTag? (shownTag properties) (.mapping entries)
  | _, _ => failure

/-- The value of a document. Collections nest at most 128 deep, and at most a hundred aliases are
followed for each step that the document takes. -/
def documentValue? (root : Node) : Option Value :=
  let all := root.descendants
  let targets := all.reverse.filterMap fun node => node.anchor?.map (·, node)
  let length := all.foldl (fun n node => n + node.steps) 0
  ((root.value? targets 128 false).run (100 * length)).map (·.1)

end Node

end StrategyDesk.Yaml
