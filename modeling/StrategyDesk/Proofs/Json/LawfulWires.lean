import StrategyDesk.Proofs.Json.Readable
import StrategyDesk.Proofs.Timestamps
import StrategyDesk.Strategy.Node

/-!
# Wire forms that lose nothing

A wire form is lawful if every value that it can express is read from its own document, and if it
can express whatever it reads.  A value that was read from some document, under whatever names and
in whatever spelling, is then read from the document that it is written as.  Records, lists and
optional values are lawful if their parts are.

## Main Definitions

* `LawfulWire` — a wire form that reads what it writes and can write what it reads
* `NeverNull` — a wire form that writes no value as `null`
* `Plain` — a wire form that can express every value
* `Slot.Readable` — what a readable document says about a field

## Main Statements

* `Json.readable_of_slots?` — the fields of a readable document are readable
* `Slot.expressible_required` and its siblings — what is read from a field can be expressed
-/

namespace StrategyDesk

/-- A wire form that loses nothing. -/
class LawfulWire (α : Type) [Wire α] where
  /-- All numbers in the value are finite, and all moments can be shown. -/
  Expressible : α → Prop
  /-- What can be expressed is read from its document. -/
  read {a : α} : Expressible a → Wire.ofJson? (toJson a) = some a
  /-- What is read can be expressed. -/
  expressible {j : Json} {a : α} : j.Readable → Wire.ofJson? j = some a → Expressible a

export LawfulWire (Expressible)

/-- A wire form that writes no value as `null`, so that an absent value can be told from it. -/
class NeverNull (α : Type) [Wire α] [LawfulWire α] : Prop where
  present {a : α} : Expressible a → toJson a ≠ .null

/-- A wire form that can express every value. -/
class Plain (α : Type) [Wire α] [LawfulWire α] : Prop where
  all (a : α) : Expressible a

/-- The laws of a wire form that reads everything from its document. -/
abbrev LawfulWire.ofRead {α : Type} [Wire α]
    (read : ∀ a : α, Wire.ofJson? (toJson a) = some a) : LawfulWire α where
  Expressible _ := True
  read {a} _ := read a
  expressible _ _ := trivial

@[simp] theorem expressible_of_plain {α : Type} [Wire α] [LawfulWire α] [Plain α] (a : α) :
    Expressible a :=
  Plain.all a

/-! ## Plain values -/

instance : LawfulWire String := .ofRead fun _ => rfl

instance : NeverNull String := ⟨fun _ => Json.noConfusion⟩

instance : Plain String := ⟨fun _ => trivial⟩

instance : LawfulWire Bool := .ofRead fun _ => rfl

instance : NeverNull Bool := ⟨fun _ => Json.noConfusion⟩

instance : Plain Bool := ⟨fun _ => trivial⟩

namespace Json

/-- A natural number below the bound is read from its document. -/
theorem natBelow?_ofNat {bound n : Nat} (below : n < bound) :
    (ofNat n).natBelow? bound = some n :=
  if_pos ⟨Int.natCast_nonneg n, below⟩

end Json

instance : LawfulWire UInt32 := .ofRead fun n => by
  have below : n.toNat < wordSize 32 := n.toNat_lt
  show ((Json.ofNat n.toNat).natBelow? (wordSize 32)).map UInt32.ofNat = some n
  rw [Json.natBelow?_ofNat below, Option.map_some, UInt32.ofNat_toNat]

instance : NeverNull UInt32 := ⟨fun _ => Json.noConfusion⟩

instance : Plain UInt32 := ⟨fun _ => trivial⟩

instance : LawfulWire UInt64 := .ofRead fun n => by
  have below : n.toNat < wordSize 64 := n.toNat_lt
  show ((Json.ofNat n.toNat).natBelow? (wordSize 64)).map UInt64.ofNat = some n
  rw [Json.natBelow?_ofNat below, Option.map_some, UInt64.ofNat_toNat]

instance : NeverNull UInt64 := ⟨fun _ => Json.noConfusion⟩

instance : Plain UInt64 := ⟨fun _ => trivial⟩

/-- A number that a readable document gives is finite. -/
theorem Json.isFinite_of_binary64? {j : Json} {x : Binary64} (readable : j.Readable)
    (read : j.binary64? = some x) : x.isFinite = true := by
  unfold binary64? at read
  split at read
  · next n =>
    cases read
    have range : -(wordSize 63 : Int) ≤ n ∧ n < wordSize 64 := readable
    have sizes : wordSize 63 = 2 ^ 63 ∧ wordSize 64 = 2 ^ 64 := ⟨rfl, rfl⟩
    have small : n.natAbs < 2 ^ 65 := by omega
    exact Binary64.isFinite_ofInt (small.trans (by decide +kernel))
  · split at read
    · next finite =>
      cases read
      exact finite
    · cases read
  · cases read

instance : LawfulWire Binary64 where
  Expressible x := x.isFinite = true
  read {x} finite := by
    show (Json.ofBinary64 x).binary64? = some x
    rw [Json.ofBinary64, if_pos finite]
    exact if_pos finite
  expressible := Json.isFinite_of_binary64?

instance : NeverNull Binary64 where
  present {x} finite := by
    have document : toJson x = .number (.float x) := if_pos finite
    rw [document]
    exact Json.noConfusion

instance : LawfulWire Value := .ofRead Value.ofJson?_json

instance : Plain Value := ⟨fun _ => trivial⟩

instance : LawfulWire ParamMap := .ofRead ParamMap.ofJson?_toJson

instance : NeverNull ParamMap := ⟨fun _ => Json.noConfusion⟩

instance : Plain ParamMap := ⟨fun _ => trivial⟩

instance : LawfulWire Timestamp where
  Expressible := Timestamp.IsMoment
  read moment := (Wire.roundTrips_timestamp moment).read
  expressible _ read := by
    obtain ⟨text, -, read⟩ := Option.bind_eq_some_iff.mp read
    exact Timestamp.isMoment_of_parse? read

/-! ## Optional values and lists -/

section Containers

variable {α : Type} [Wire α] [LawfulWire α]

/-- An absent value can be told from one that is present. -/
instance [NeverNull α] : LawfulWire (Option α) where
  Expressible value := ∀ a ∈ value, Expressible a
  read {value} each := by
    cases value with
    | none => rfl
    | some a =>
        have expressible : Expressible a := each a rfl
        have read : Wire.ofJson? (toJson (some a)) =
            (Wire.ofJson? (toJson a) : Option α).map some := by
          cases document : toJson a with
          | null => exact absurd document (NeverNull.present expressible)
          | unreadable | bool _ | number _ | string _ | array _ | object _ => rfl
        rw [read, LawfulWire.read expressible]
        rfl
  expressible {j value} readable read := by
    intro a member
    obtain rfl : value = some a := member
    cases j with
    | null => cases read
    | unreadable | bool _ | number _ | string _ | array _ | object _ =>
        obtain ⟨_, inner, same⟩ := Option.map_eq_some_iff.mp read
        cases same
        exact LawfulWire.expressible readable inner

theorem expressible_none [NeverNull α] : Expressible (none : Option α) :=
  fun _ member => nomatch member

instance [NeverNull α] [Plain α] : Plain (Option α) := ⟨fun _ a _ => Plain.all a⟩

theorem mapM_ofJson?_toJson {items : List α} (each : ∀ a ∈ items, Expressible a) :
    (items.map toJson).mapM Wire.ofJson? = some items := by
  induction items with
  | nil => rfl
  | cons a items ih =>
      obtain ⟨first, others⟩ := List.forall_mem_cons.mp each
      rw [List.map_cons, List.mapM_cons, LawfulWire.read first, ih others]
      rfl

theorem expressible_of_mapM_ofJson? {documents : List Json} {items : List α}
    (readable : Json.ItemsReadable documents)
    (read : documents.mapM Wire.ofJson? = some items) : ∀ a ∈ items, Expressible a := by
  induction documents generalizing items with
  | nil =>
      cases read
      exact List.forall_mem_nil _
  | cons document documents ih =>
      rw [List.mapM_cons] at read
      obtain ⟨a, first, read⟩ := Option.bind_eq_some_iff.mp read
      obtain ⟨others, later, same⟩ := Option.bind_eq_some_iff.mp read
      cases same
      exact List.forall_mem_cons.mpr
        ⟨LawfulWire.expressible readable.1 first, ih readable.2 later⟩

instance : LawfulWire (List α) where
  Expressible items := ∀ a ∈ items, Expressible a
  read := mapM_ofJson?_toJson
  expressible {j _} readable read := by
    cases j with
    | array documents => exact expressible_of_mapM_ofJson? readable read
    | unreadable | null | bool _ | number _ | string _ | object _ => cases read

theorem expressible_nil : Expressible ([] : List α) := List.forall_mem_nil _

instance [Plain α] : Plain (List α) := ⟨fun _ a _ => Plain.all a⟩

end Containers

/-! ## The fields of a record -/

/-- Every number in what the document says about the field is one that a text can give. -/
def Slot.Readable : Slot → Prop
  | .given j => j.Readable
  | .missing | .beyond => True

namespace Json

theorem readable_of_slot? {fields : List (String × Json)} (readable : FieldsReadable fields)
    {names : List String} {slot : Slot} (found : slot? fields names = some slot) :
    slot.Readable := by
  unfold slot? at found
  split at found
  · cases found
    trivial
  · next field only =>
    cases found
    have member : field ∈ fields.filter fun e => names.contains e.1 :=
      only ▸ List.mem_singleton_self _
    exact fieldsReadable_iff.mp readable field (List.mem_of_mem_filter member)
  · cases found

/-- **The fields of a readable document are readable.** -/
theorem readable_of_slots? {j : Json} (readable : j.Readable) {names : List (List String)}
    {slots : List Slot} (found : j.slots? names = some slots) : ∀ slot ∈ slots, slot.Readable := by
  unfold slots? at found
  split at found
  · next fields =>
    induction names generalizing slots with
    | nil =>
        cases found
        exact List.forall_mem_nil _
    | cons name names ih =>
        rw [List.mapM_cons] at found
        obtain ⟨slot, first, found⟩ := Option.bind_eq_some_iff.mp found
        obtain ⟨others, later, same⟩ := Option.bind_eq_some_iff.mp found
        cases same
        exact List.forall_mem_cons.mpr ⟨readable_of_slot? readable first, ih later⟩
  · next items =>
    split at found
    · cases found
      intro slot member
      rcases List.mem_append.mp member with given | beyond
      · obtain ⟨item, there, rfl⟩ := List.mem_map.mp given
        exact itemsReadable_iff.mp readable item there
      · rw [List.eq_of_mem_replicate beyond]
        trivial
    · cases found
  · cases found

/-- What is built of a readable document is built of readable fields. -/
theorem exists_readable_slots {α : Type} {j : Json} (readable : j.Readable)
    {names : List (List String)} {build : List Slot → Option α} {a : α}
    (read : (j.slots? names).bind build = some a) :
    ∃ slots : List Slot, (∀ slot ∈ slots, slot.Readable) ∧ build slots = some a := by
  obtain ⟨slots, found, built⟩ := Option.bind_eq_some_iff.mp read
  exact ⟨slots, readable_of_slots? readable found, built⟩

theorem key_mem_of_mem_written {fields : List (String × Option Json)} {e : String × Json}
    (member : e ∈ written fields) : e.1 ∈ fields.map Prod.fst := by
  obtain ⟨field, there, value⟩ := List.mem_filterMap.mp member
  obtain ⟨_, -, rfl⟩ := Option.map_eq_some_iff.mp value
  exact List.mem_map_of_mem there

/-- Further names by which no field of a record goes make no difference to its document. -/
theorem slots?_record_congr {fields : List (String × Option Json)}
    {names names' : List (List String)}
    (same : List.Forall₂ (fun known known' => ∀ key ∈ fields.map Prod.fst,
      known.contains key = known'.contains key) names names') :
    (record fields).slots? names = (record fields).slots? names' := by
  have each {known known' : List String}
      (same : ∀ key ∈ fields.map Prod.fst, known.contains key = known'.contains key) :
      slot? (written fields) known = slot? (written fields) known' := by
    have filtered := List.filter_congr fun e (member : e ∈ written fields) =>
      same e.1 (key_mem_of_mem_written member)
    unfold slot?
    rw [filtered]
  show names.mapM (slot? (written fields)) = names'.mapM (slot? (written fields))
  induction same with
  | nil => rfl
  | cons first _ ih => rw [List.mapM_cons, List.mapM_cons, each first, ih]

end Json

namespace Slot

section Readers

variable {α : Type} [Wire α] [LawfulWire α]

@[simp] theorem required_given {a : α} (expressible : Expressible a) :
    (given (toJson a)).required = some a :=
  LawfulWire.read expressible

@[simp] theorem orElse_given {a : α} (expressible : Expressible a) (default : α) :
    (given (toJson a)).orElse default = some a :=
  LawfulWire.read expressible

variable [NeverNull α] {value : Option α}

@[simp] theorem optional_given (expressible : Expressible value) :
    (given (toJson value)).optional = some value :=
  LawfulWire.read expressible

@[simp] theorem nullable_given (expressible : Expressible value) :
    (given (toJson value)).nullable = some value :=
  LawfulWire.read expressible

@[simp] theorem optional_ofField (expressible : Expressible value) :
    (ofField (value.map toJson)).optional = some value := by
  cases value with
  | none => rfl
  | some a => exact optional_given expressible

end Readers

/-- A loose text is read from what it was written as. -/
@[simp] theorem looseText_given (text : Option String) :
    (given (toJson text)).looseText = some text := by
  cases text with
  | none =>
      have read : Value.ofJson? (toJson (none : Option String)) = some .null :=
        Value.ofJson?_json .null
      rw [looseText, Json.looseText?, read]
      rfl
  | some text =>
      have read : Value.ofJson? (toJson (some text)) = some (.ofString text) :=
        Value.ofJson?_json (.ofString text)
      rw [looseText, Json.looseText?, read]
      rfl

section Readers

variable {α : Type} [Wire α] [LawfulWire α] {slot : Slot}

theorem expressible_required {a : α} (readable : slot.Readable) (read : slot.required = some a) :
    Expressible a := by
  cases slot with
  | given j => exact LawfulWire.expressible readable read
  | missing | beyond => cases read

theorem expressible_orElse {a default : α} (readable : slot.Readable)
    (standard : Expressible default) (read : slot.orElse default = some a) : Expressible a := by
  cases slot with
  | given j => exact LawfulWire.expressible readable read
  | missing | beyond =>
      cases read
      exact standard

theorem expressible_optional [NeverNull α] {value : Option α} (readable : slot.Readable)
    (read : slot.optional = some value) : Expressible value :=
  expressible_orElse readable expressible_none read

end Readers

end Slot

end StrategyDesk
