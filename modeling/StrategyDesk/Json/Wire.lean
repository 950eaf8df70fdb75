import StrategyDesk.Json.Printer
import StrategyDesk.Json.Reader
import StrategyDesk.Json.Value

/-!
# Wire forms

How the values of a type are written as JSON documents and read from them.

## Main Definitions

* `Wire` — a type with a written form
* `Slot`, `Json.slots?` — what a document says about the fields of a record
* `Json.record` — the document of a record

## Design Notes

A record is read from an object, where unknown fields are ignored and a known one may not be
repeated, or from an array of its fields in order, where only trailing fields with a default may be
left out.
-/

namespace StrategyDesk

/-- A type whose values are exchanged as JSON. -/
class Wire (α : Type) where
  /-- The document of a value. -/
  toJson : α → Json
  /-- The value of a document, if it has the right form. -/
  ofJson? : Json → Option α

export Wire (toJson)

/-! ## Plain values -/

namespace Json

/-- The document of a number; what is not finite has none and is written as `null`. -/
def ofBinary64 (x : Binary64) : Json := if x.isFinite then .number (.float x) else .null

/-- The document of a natural number. -/
def ofNat (n : Nat) : Json := .number (.integer n)

/-- A text that is a quoted string. -/
def string? : Json → Option String
  | .string s => some s
  | _ => none

def bool? : Json → Option Bool
  | .bool b => some b
  | _ => none

/-- A natural number below a bound; a number with a point or an exponent is not one. -/
def natBelow? (bound : Nat) : Json → Option Nat
  | .number (.integer n) => if 0 ≤ n ∧ n.toNat < bound then some n.toNat else none
  | _ => none

/-- A number of either kind as binary64. -/
def binary64? : Json → Option Binary64
  | .number (.integer n) => some (Binary64.ofInt n)
  | .number (.float x) => if x.isFinite then some x else none
  | _ => none

/-- The text of a field that may come as a text, a number or a truth value; anything else reads
as absent. -/
def looseText? (j : Json) : Option (Option String) :=
  (Value.ofJson? j).map fun v =>
    match v.json with
    | .string s => some s
    | .number n => some n.text
    | .bool b => some (if b then "true" else "false")
    | _ => none

end Json

instance : Wire String := ⟨.string, Json.string?⟩

instance : Wire Bool := ⟨.bool, Json.bool?⟩

instance : Wire Binary64 := ⟨Json.ofBinary64, Json.binary64?⟩

instance : Wire UInt32 := ⟨fun n => .ofNat n.toNat, fun j => (j.natBelow? (wordSize 32)).map .ofNat⟩

instance : Wire UInt64 := ⟨fun n => .ofNat n.toNat, fun j => (j.natBelow? (wordSize 64)).map .ofNat⟩

instance : Wire Value := ⟨Value.json, Value.ofJson?⟩

instance : Wire ParamMap := ⟨ParamMap.toJson, ParamMap.ofJson?⟩

instance : Wire Unit := ⟨fun _ => .null, fun j => if j = .null then some () else none⟩

/-- An absent value is `null`. -/
instance {α : Type} [Wire α] : Wire (Option α) where
  toJson
    | some a => Wire.toJson a
    | none => .null
  ofJson?
    | .null => some none
    | j => (Wire.ofJson? j).map some

instance {α : Type} [Wire α] : Wire (List α) where
  toJson items := .array (items.map Wire.toJson)
  ofJson?
    | .array items => items.mapM Wire.ofJson?
    | _ => none

/-! ## Records -/

/-- What a document says about one field of a record. -/
inductive Slot where
  | given (value : Json)
  /-- An object without the field. -/
  | missing
  /-- An array that ends before the field. -/
  | beyond

namespace Slot

/-- A field that must be there. -/
def required {α : Type} [Wire α] : Slot → Option α
  | given j => Wire.ofJson? j
  | _ => none

/-- A field that may be left out. -/
def orElse {α : Type} [Wire α] (default : α) : Slot → Option α
  | given j => Wire.ofJson? j
  | _ => some default

/-- A field that may be left out or `null`. -/
def optional {α : Type} [Wire α] (slot : Slot) : Option (Option α) := slot.orElse none

/-- A field that an object may leave out, and an array may not. -/
def nullable {α : Type} [Wire α] : Slot → Option (Option α)
  | given j => Wire.ofJson? j
  | missing => some none
  | beyond => none

/-- A field that may be left out, and whose text may come as a number or a truth value. -/
def looseText : Slot → Option (Option String)
  | given j => j.looseText?
  | _ => some none

end Slot

namespace Json

/-- What the fields of an object say about the field known under some names. -/
def slot? (fields : List (String × Json)) (names : List String) : Option Slot :=
  match fields.filter fun e => names.contains e.1 with
  | [] => some .missing
  | [e] => some (.given e.2)
  | _ => none

/-- What a document says about the fields of a record, each known under one or more names. -/
def slots? (names : List (List String)) : Json → Option (List Slot)
  | .object fields => names.mapM (slot? fields)
  | .array items =>
    if items.length ≤ names.length then
      some (items.map .given ++ List.replicate (names.length - items.length) .beyond)
    else none
  | _ => none

/-- The document of a record, its fields in order; those without a value are left out. -/
def record (fields : List (String × Option Json)) : Json :=
  .object (fields.filterMap fun e => e.2.map fun value => (e.1, value))

end Json

/-- A field that is always written. -/
def always {α : Type} [Wire α] (name : String) (value : α) : String × Option Json :=
  (name, some (Wire.toJson value))

/-- A field that is left out when absent. -/
def whenPresent {α : Type} [Wire α] (name : String) (value : Option α) : String × Option Json :=
  (name, value.map Wire.toJson)

/-- The value of a text in wire form. -/
def Wire.parse? {α : Type} [Wire α] (text : String) : Option α :=
  Json.parse? text >>= Wire.ofJson?

end StrategyDesk
