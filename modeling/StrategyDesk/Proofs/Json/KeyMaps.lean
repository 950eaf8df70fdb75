import Mathlib.Data.List.Nodup
import StrategyDesk.Json.KeyMap

/-!
# Lookups in maps with text keys

What each operation on a map does to its lookups.  As a map has its entries in ascending order, it
is determined by its lookups, so that maps that were built in different ways can be told equal.

## Main Definitions

* `KeyMap.map` — the map with every value changed

## Main Statements

* `KeyMap.ext_get?` — maps with the same lookups are equal
* `KeyMap.get?_insert`, `KeyMap.get?_filterKeys`, `KeyMap.get?_erase`, `KeyMap.get?_overlay`,
  `KeyMap.get?_map`
* `KeyMap.ofList_toList` — a map is the map of its entries
-/

namespace StrategyDesk

namespace KeyMap

variable {α : Type}

/-! ## Lookups in entries -/

theorem lookup_cons (key : String) (value : α) (entries : List (String × α)) (wanted : String) :
    ((key, value) :: entries).lookup wanted =
      if wanted = key then some value else entries.lookup wanted := by
  by_cases same : wanted = key
  · simp [same]
  · have test : (wanted == key) = false := beq_eq_false_iff_ne.mpr same
    rw [List.lookup_cons, test, if_neg same]

theorem lookup_insertEntry (key : String) (value : α) (entries : List (String × α))
    (wanted : String) :
    (insertEntry key value entries).lookup wanted =
      if wanted = key then some value else entries.lookup wanted := by
  induction entries with
  | nil => simp [insertEntry, lookup_cons]
  | cons head rest ih =>
      obtain ⟨k, v⟩ := head
      unfold insertEntry
      split
      · rw [lookup_cons]
      · split
        · next same =>
          subst same
          rw [lookup_cons, lookup_cons]
          split <;> rfl
        · next differs =>
          rw [lookup_cons, lookup_cons, ih]
          by_cases found : wanted = k
          · rw [if_pos found, if_pos found, if_neg (found ▸ Ne.symm differs)]
          · rw [if_neg found, if_neg found]

theorem lookup_filter (keep : String → Bool) (entries : List (String × α)) (wanted : String) :
    (entries.filter (fun e => keep e.1)).lookup wanted =
      if keep wanted then entries.lookup wanted else none := by
  induction entries with
  | nil => simp
  | cons head rest ih =>
      obtain ⟨k, v⟩ := head
      rw [List.filter_cons]
      split
      · next kept =>
        rw [lookup_cons, lookup_cons, ih]
        by_cases found : wanted = k
        · rw [if_pos found, if_pos found, if_pos (found ▸ kept)]
        · rw [if_neg found, if_neg found]
      · next dropped =>
        rw [ih, lookup_cons]
        by_cases found : wanted = k
        · rw [if_neg (found ▸ dropped), if_neg (found ▸ dropped)]
        · rw [if_neg found]

/-- No entry has a key that stands before all of them. -/
theorem lookup_eq_none_of_lt {key : String} {entries : List (String × α)}
    (below : ∀ e ∈ entries, key < e.1) : entries.lookup key = none := by
  refine List.lookup_eq_none_iff.mpr fun e member => ?_
  have apart : key ≠ e.1 := Std.ne_of_lt (below e member)
  simpa using apart

/-- In entries with ascending keys, a lookup finds exactly the entries. -/
theorem lookup_eq_some_iff {entries : List (String × α)} (ascend : KeysAscend entries)
    {key : String} {value : α} : entries.lookup key = some value ↔ (key, value) ∈ entries := by
  induction entries with
  | nil => simp
  | cons head rest ih =>
      obtain ⟨k, v⟩ := head
      obtain ⟨above, tail⟩ := List.pairwise_cons.mp ascend
      rw [lookup_cons, List.mem_cons]
      by_cases same : key = k
      · have absent : (key, value) ∉ rest := fun member =>
          absurd same.symm (Std.ne_of_lt (above (key, value) member))
        simp [same, same ▸ absent, eq_comm]
      · have other : (key, value) ≠ (k, v) := fun equal => same (Prod.mk.inj equal).1
        rw [if_neg same, ih tail]
        simp [other]

/-! ## Lookups in maps -/

theorem get?_empty (key : String) : (empty : KeyMap α).get? key = none := rfl

/-- **Maps with the same lookups are equal.** -/
theorem ext_get? {a b : KeyMap α} (same : ∀ key, a.get? key = b.get? key) : a = b := by
  have nodup (map : KeyMap α) : map.toList.Nodup :=
    map.ascend.imp fun below equal => absurd (congrArg Prod.fst equal) (Std.ne_of_lt below)
  have entries (e : String × α) : e ∈ a.toList ↔ e ∈ b.toList := by
    rw [← lookup_eq_some_iff a.ascend, ← lookup_eq_some_iff b.ascend]
    exact iff_of_eq (congrArg (· = some e.2) (same e.1))
  have perm : a.toList.Perm b.toList :=
    (List.perm_ext_iff_of_nodup (nodup a) (nodup b)).mpr entries
  have lists : a.toList = b.toList :=
    perm.eq_of_pairwise (fun _ _ _ _ below above => absurd above (String.lt_asymm below))
      a.ascend b.ascend
  cases a
  cases b
  simpa using lists

theorem get?_insert (map : KeyMap α) (key : String) (value : α) (wanted : String) :
    (map.insert key value).get? wanted = if wanted = key then some value else map.get? wanted :=
  lookup_insertEntry key value map.toList wanted

theorem get?_insert_of_ne {wanted key : String} (apart : wanted ≠ key) (map : KeyMap α)
    (value : α) :
    (map.insert key value).get? wanted = map.get? wanted := by
  rw [get?_insert, if_neg apart]

theorem get?_filterKeys (keep : String → Bool) (map : KeyMap α) (wanted : String) :
    (map.filterKeys keep).get? wanted = if keep wanted then map.get? wanted else none :=
  lookup_filter keep map.toList wanted

theorem get?_erase (map : KeyMap α) (key wanted : String) :
    (map.erase key).get? wanted = if wanted = key then none else map.get? wanted := by
  unfold erase
  rw [get?_filterKeys]
  by_cases same : wanted = key
  · simp [same]
  · simp [same]

/-- A map without a key stays as it is when the key is taken out. -/
theorem erase_eq_self {map : KeyMap α} {key : String} (absent : map.get? key = none) :
    map.erase key = map := by
  refine ext_get? fun wanted => ?_
  rw [get?_erase]
  by_cases same : wanted = key
  · rw [if_pos same, same, absent]
  · rw [if_neg same]

theorem erase_erase (map : KeyMap α) (key : String) : (map.erase key).erase key = map.erase key :=
  erase_eq_self (by rw [get?_erase, if_pos rfl])

/-! ## Several entries -/

/-- Entries with ascending keys are found in a map that they were put into. -/
theorem get?_insertAll {entries : List (String × α)} (ascend : KeysAscend entries)
    (map : KeyMap α) (wanted : String) :
    (map.insertAll entries).get? wanted = (entries.lookup wanted).or (map.get? wanted) := by
  induction entries generalizing map with
  | nil => rfl
  | cons head rest ih =>
      obtain ⟨k, v⟩ := head
      obtain ⟨above, tail⟩ := List.pairwise_cons.mp ascend
      have step : map.insertAll ((k, v) :: rest) = (map.insert k v).insertAll rest := rfl
      rw [step, ih tail, get?_insert, lookup_cons]
      by_cases same : wanted = k
      · rw [if_pos same, if_pos same, same, lookup_eq_none_of_lt above]
        rfl
      · rw [if_neg same, if_neg same]

theorem get?_overlay (below above : KeyMap α) (wanted : String) :
    (below.overlay above).get? wanted = (above.get? wanted).or (below.get? wanted) :=
  get?_insertAll above.ascend below wanted

/-- **A map is the map of its entries.** -/
theorem ofList_toList (map : KeyMap α) : ofList map.toList = map := by
  refine ext_get? fun wanted => ?_
  unfold ofList
  rw [get?_insertAll map.ascend, get?_empty, Option.or_none]
  rfl

/-! ## Changed values -/

section Map

variable {β : Type} (change : α → β)

/-- The map with every value changed. -/
def map (entries : KeyMap α) : KeyMap β where
  toList := entries.toList.map fun e => (e.1, change e.2)
  ascend := by
    have ascend := entries.ascend
    unfold KeysAscend at ascend ⊢
    rwa [List.pairwise_map]

theorem get?_map (entries : KeyMap α) (key : String) :
    (entries.map change).get? key = (entries.get? key).map change := by
  show (entries.toList.map fun e => (e.1, change e.2)).lookup key =
    (entries.toList.lookup key).map change
  induction entries.toList with
  | nil => rfl
  | cons head rest ih =>
      rw [List.map_cons, lookup_cons, lookup_cons, ih]
      split <;> rfl

end Map

end KeyMap

end StrategyDesk
