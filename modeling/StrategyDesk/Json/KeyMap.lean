/-!
# Maps with text keys

Finite maps from texts, as entries in ascending order of their keys, so that equal maps are equal
as data and are written in one way.

## Main Definitions

* `KeyMap` — entries with strictly ascending keys
* `KeyMap.get?`, `KeyMap.insert`, `KeyMap.erase`, `KeyMap.ofList`, `KeyMap.overlay`
-/

namespace StrategyDesk

/-- The keys of the entries are in strictly ascending order, so none occurs twice. -/
def KeysAscend {α : Type} (entries : List (String × α)) : Prop :=
  entries.Pairwise (fun a b => a.1 < b.1)

instance {α : Type} (entries : List (String × α)) : Decidable (KeysAscend entries) :=
  inferInstanceAs (Decidable (entries.Pairwise _))

/-- A finite map from texts. -/
structure KeyMap (α : Type) where
  /-- The entries in ascending order of their keys. -/
  toList : List (String × α)
  ascend : KeysAscend toList

instance {α : Type} [DecidableEq α] : DecidableEq (KeyMap α) := fun a b =>
  decidable_of_iff (a.toList = b.toList) (by cases a; cases b; simp)

namespace KeyMap

variable {α : Type}

/-- The map without entries. -/
def empty : KeyMap α := ⟨[], List.Pairwise.nil⟩

instance : Inhabited (KeyMap α) := ⟨empty⟩

/-- The value at a key. -/
def get? (map : KeyMap α) (key : String) : Option α := map.toList.lookup key

/-- The key has a value. -/
def contains (map : KeyMap α) (key : String) : Bool := (map.get? key).isSome

/-- Puts an entry at its place, over the one with the same key if there is one. -/
def insertEntry (key : String) (value : α) : List (String × α) → List (String × α)
  | [] => [(key, value)]
  | (k, v) :: rest =>
    if key < k then (key, value) :: (k, v) :: rest
    else if key = k then (key, value) :: rest
    else (k, v) :: insertEntry key value rest

theorem mem_insertEntry {key : String} {value : α} {entries : List (String × α)}
    {e : String × α} (h : e ∈ insertEntry key value entries) :
    e = (key, value) ∨ e ∈ entries := by
  induction entries with
  | nil => simpa [insertEntry] using h
  | cons head rest ih =>
    obtain ⟨k, v⟩ := head
    unfold insertEntry at h
    split at h
    · simpa using h
    · split at h
      · rcases List.mem_cons.mp h with h | h
        · exact .inl h
        · exact .inr (List.mem_cons_of_mem _ h)
      · rcases List.mem_cons.mp h with h | h
        · exact .inr (h ▸ List.mem_cons_self)
        · rcases ih h with h | h
          · exact .inl h
          · exact .inr (List.mem_cons_of_mem _ h)

theorem keysAscend_insertEntry {key : String} {value : α} {entries : List (String × α)}
    (h : KeysAscend entries) : KeysAscend (insertEntry key value entries) := by
  induction entries with
  | nil => exact List.pairwise_singleton _ _
  | cons head rest ih =>
    obtain ⟨k, v⟩ := head
    obtain ⟨above, tail⟩ := List.pairwise_cons.mp h
    unfold insertEntry
    split
    · next below =>
      refine List.pairwise_cons.mpr ⟨fun e he => ?_, h⟩
      rcases List.mem_cons.mp he with he | he
      · exact he ▸ below
      · exact String.lt_trans below (above e he)
    · next notBelow =>
      split
      · next same =>
        exact List.pairwise_cons.mpr ⟨fun e he => same ▸ above e he, tail⟩
      · next differs =>
        refine List.pairwise_cons.mpr ⟨fun e he => ?_, ih tail⟩
        rcases mem_insertEntry he with he | he
        · subst he
          exact Std.lt_of_le_of_ne (Std.not_lt.mp notBelow) (Ne.symm differs)
        · exact above e he

/-- The map with a value at a key. -/
def insert (map : KeyMap α) (key : String) (value : α) : KeyMap α :=
  ⟨insertEntry key value map.toList, keysAscend_insertEntry map.ascend⟩

/-- The entries whose key satisfies a test. -/
def filterKeys (keep : String → Bool) (map : KeyMap α) : KeyMap α :=
  ⟨map.toList.filter (fun e => keep e.1), List.Pairwise.filter _ map.ascend⟩

/-- The map without a key. -/
def erase (map : KeyMap α) (key : String) : KeyMap α := map.filterKeys (· != key)

/-- The entries put in one after the other: of several with one key the last stays. -/
def insertAll (map : KeyMap α) (entries : List (String × α)) : KeyMap α :=
  entries.foldl (fun map e => map.insert e.1 e.2) map

/-- The map of a list of entries; of several with one key the last stays. -/
def ofList (entries : List (String × α)) : KeyMap α := empty.insertAll entries

/-- The entries of both maps, those of the second winning. -/
def overlay (below above : KeyMap α) : KeyMap α := below.insertAll above.toList

end KeyMap

end StrategyDesk
