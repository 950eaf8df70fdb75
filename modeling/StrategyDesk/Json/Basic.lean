import StrategyDesk.Json.KeyMap
import StrategyDesk.Number.Binary64

/-!
# JSON documents

The syntax tree of a JSON text as written: the fields of an object stand in the order of the text
and a key may occur more than once.

## Main Definitions

* `JsonNumber` — an integer of at most 64 bits, or a binary64 number
* `Json` — the tree, with decidable equality
* `Json.IsCanonical` — every object has its keys in strictly ascending order, and every number is
  one that a text can give
-/

namespace StrategyDesk

/-- A number of a document. Integers and floats stay apart: `1` and `1.0` are different. -/
inductive JsonNumber where
  | integer (value : Int)
  /-- A number with a fraction or an exponent, or an integer beyond 64 bits. -/
  | float (value : Binary64)
deriving DecidableEq

/-- A JSON document. -/
inductive Json where
  /-- A token that is well formed but stands for no value: a number beyond the binary64 range, a
  string with half a surrogate pair. It may stand where nobody reads it. -/
  | unreadable
  | null
  | bool (value : Bool)
  | number (value : JsonNumber)
  | string (value : String)
  | array (items : List Json)
  | object (fields : List (String × Json))

namespace Json

instance : Inhabited Json := ⟨.null⟩

mutual

/-- Equality of documents is decidable. -/
def decEq : (a b : Json) → Decidable (a = b)
  | .unreadable, .unreadable | .null, .null => isTrue rfl
  | .bool a, .bool b => if h : a = b then isTrue (by rw [h]) else isFalse (by simp [h])
  | .number a, .number b => if h : a = b then isTrue (by rw [h]) else isFalse (by simp [h])
  | .string a, .string b => if h : a = b then isTrue (by rw [h]) else isFalse (by simp [h])
  | .array a, .array b =>
    match decEqItems a b with
    | isTrue h => isTrue (by rw [h])
    | isFalse h => isFalse (by simp [h])
  | .object a, .object b =>
    match decEqFields a b with
    | isTrue h => isTrue (by rw [h])
    | isFalse h => isFalse (by simp [h])
  | .unreadable, .null | .unreadable, .bool _ | .unreadable, .number _ | .unreadable, .string _
  | .unreadable, .array _ | .unreadable, .object _ | .null, .unreadable | .null, .bool _
  | .null, .number _ | .null, .string _ | .null, .array _ | .null, .object _
  | .bool _, .unreadable | .bool _, .null | .bool _, .number _ | .bool _, .string _
  | .bool _, .array _ | .bool _, .object _ | .number _, .unreadable | .number _, .null
  | .number _, .bool _ | .number _, .string _ | .number _, .array _ | .number _, .object _
  | .string _, .unreadable | .string _, .null | .string _, .bool _ | .string _, .number _
  | .string _, .array _ | .string _, .object _ | .array _, .unreadable | .array _, .null
  | .array _, .bool _ | .array _, .number _ | .array _, .string _ | .array _, .object _
  | .object _, .unreadable | .object _, .null | .object _, .bool _ | .object _, .number _
  | .object _, .string _ | .object _, .array _ => isFalse nofun

/-- Equality of the items of two arrays is decidable. -/
def decEqItems : (a b : List Json) → Decidable (a = b)
  | [], [] => isTrue rfl
  | [], _ :: _ | _ :: _, [] => isFalse nofun
  | a :: as, b :: bs =>
    match a.decEq b, decEqItems as bs with
    | isTrue h, isTrue h' => isTrue (by rw [h, h'])
    | isFalse h, _ => isFalse (by simp [h])
    | _, isFalse h => isFalse (by simp [h])

/-- Equality of the fields of two objects is decidable. -/
def decEqFields : (a b : List (String × Json)) → Decidable (a = b)
  | [], [] => isTrue rfl
  | [], _ :: _ | _ :: _, [] => isFalse nofun
  | (k, a) :: as, (l, b) :: bs =>
    if hk : k = l then
      match a.decEq b, decEqFields as bs with
      | isTrue h, isTrue h' => isTrue (by rw [hk, h, h'])
      | isFalse h, _ => isFalse (by simp [h])
      | _, isFalse h => isFalse (by simp [h])
    else isFalse (by simp [hk])

end

instance : DecidableEq Json := decEq

end Json

/-! ## Canonical documents -/

/-- A number that a text can give: an integer of 64 bits, signed or unsigned, or a finite one. -/
def JsonNumber.IsCanonical : JsonNumber → Prop
  | .integer n => -(wordSize 63 : Int) ≤ n ∧ n < wordSize 64
  | .float x => x.isFinite = true

instance : DecidablePred JsonNumber.IsCanonical
  | .integer n => inferInstanceAs (Decidable (-(wordSize 63 : Int) ≤ n ∧ n < wordSize 64))
  | .float x => inferInstanceAs (Decidable (x.isFinite = true))

namespace Json

mutual

/-- Every object has its keys in ascending order, and every number is one that a text can give. -/
def IsCanonical : Json → Prop
  | .unreadable => False
  | .null | .bool _ | .string _ => True
  | .number n => n.IsCanonical
  | .array items => ItemsCanonical items
  | .object fields => KeysAscend fields ∧ FieldsCanonical fields

/-- Every item is canonical. -/
def ItemsCanonical : List Json → Prop
  | [] => True
  | item :: rest => item.IsCanonical ∧ ItemsCanonical rest

/-- The value of every field is canonical. -/
def FieldsCanonical : List (String × Json) → Prop
  | [] => True
  | (_, value) :: rest => value.IsCanonical ∧ FieldsCanonical rest

end

mutual

/-- Whether a document is canonical can be decided. -/
def decCanonical : (j : Json) → Decidable j.IsCanonical
  | .unreadable => isFalse (by simp [IsCanonical])
  | .null | .bool _ | .string _ => isTrue (by simp [IsCanonical])
  | .number n => decidable_of_iff n.IsCanonical (by simp [IsCanonical])
  | .array items =>
    have := decItemsCanonical items
    decidable_of_iff (ItemsCanonical items) (by simp [IsCanonical])
  | .object fields =>
    have := decFieldsCanonical fields
    decidable_of_iff (KeysAscend fields ∧ FieldsCanonical fields) (by simp [IsCanonical])

/-- Whether all items are canonical can be decided. -/
def decItemsCanonical : (items : List Json) → Decidable (ItemsCanonical items)
  | [] => isTrue (by simp [ItemsCanonical])
  | item :: rest =>
    have := item.decCanonical
    have := decItemsCanonical rest
    decidable_of_iff (item.IsCanonical ∧ ItemsCanonical rest) (by simp [ItemsCanonical])

/-- Whether the values of all fields are canonical can be decided. -/
def decFieldsCanonical : (fields : List (String × Json)) → Decidable (FieldsCanonical fields)
  | [] => isTrue (by simp [FieldsCanonical])
  | (_, value) :: rest =>
    have := value.decCanonical
    have := decFieldsCanonical rest
    decidable_of_iff (value.IsCanonical ∧ FieldsCanonical rest) (by simp [FieldsCanonical])

end

instance : DecidablePred IsCanonical := decCanonical

end Json

end StrategyDesk
