import StrategyDesk.Number.Binary64

/-!
# TOML documents

A document is a table of keys. How a table came to be decides what may still be added to it, so
tables carry their origin.

## Main Definitions

* `Toml`, `Toml.Origin`
* `Toml.Entries`, `Toml.Entries.get?`, `Toml.Entries.put`
* `Toml.Entries.alter?` — changes the table at the end of a path
* `Toml.Entries.define?`, `Toml.Entries.openTable?`, `Toml.Entries.openElement?` — what one line of
  a document does to it

## Design Notes

A table is opened by a header once. A header may pass through a table that was opened or only
implied; a dotted key may pass only through tables that were implied or made by dotted keys, and
ends in one of the latter. Both go on in the last element of an array of tables.
-/

namespace StrategyDesk

/-- How a table came to be. -/
inductive Toml.Origin where
  /-- Written between braces. -/
  | inline
  /-- Opened by a header; the document itself too. -/
  | header
  /-- Passed through by a header. -/
  | implied
  /-- Passed through by a dotted key. -/
  | dotted
deriving DecidableEq, Repr

/-- A value of a document. -/
inductive Toml where
  | string (s : String)
  | integer (n : Int)
  | decimal (x : Binary64)
  | boolean (b : Bool)
  /-- A date, a time of day, or both, as written. -/
  | moment (written : List Char)
  | array (items : List Toml)
  | table (origin : Toml.Origin) (entries : List (String × Toml))
  /-- An array of tables, one for each of its headers. -/
  | tables (elements : List Toml)

namespace Toml

/-- The keys of a table with their values, each key once. -/
abbrev Entries := List (String × Toml)

namespace Entries

/-- The value of a key. -/
def get? (entries : Entries) (key : String) : Option Toml :=
  (entries.find? (·.1 == key)).map (·.2)

/-- Sets the value of a key: in its place if it is there, at the end if not. -/
def put (key : String) (value : Toml) : Entries → Entries
  | [] => [(key, value)]
  | (k, v) :: rest => if k = key then (k, value) :: rest else (k, v) :: put key value rest

/-- A dotted key, or a header, may pass through a table of this origin. -/
def admits (dotted : Bool) : Origin → Bool
  | .implied | .dotted => true
  | .header => !dotted
  | .inline => false

/-- Changes the table at the end of a path, which is made as far as it is missing. -/
def alter? (dotted : Bool) (change : Origin → Entries → Option Entries) :
    List String → Origin → Entries → Option Entries
  | [], origin, entries => change origin entries
  | key :: path, _, entries =>
    match entries.get? key with
    | none => do
      let made : Origin := if dotted then .dotted else .implied
      some (put key (.table made (← alter? dotted change path made [])) entries)
    | some (.table origin inner) =>
      if admits dotted origin then do
        some (put key (.table origin (← alter? dotted change path origin inner)) entries)
      else none
    | some (.tables elements) =>
      match elements.getLast? with
      | some (.table origin inner) => do
        let last := Toml.table origin (← alter? dotted change path origin inner)
        some (put key (.tables (elements.dropLast ++ [last])) entries)
      | _ => none
    | some _ => none

/-- Defines a key at the end of a dotted path. The key must be new, and a path must lead to a
table made by dotted keys. -/
def define? (path : List String) (key : String) (value : Toml) (origin : Origin)
    (entries : Entries) : Option Entries :=
  entries.alter? true (fun found inner =>
    if (path.isEmpty ∨ found = .dotted) ∧ (inner.get? key).isNone then
      some (put key value inner)
    else none) path origin

/-- Opens the table of a header: a new one, or one that was only implied. -/
def openTable? (path : List String) (key : String) (entries : Entries) : Option Entries :=
  entries.alter? false (fun _ inner =>
    match inner.get? key with
    | none => some (put key (.table .header []) inner)
    | some (.table .implied held) => some (put key (.table .header held) inner)
    | some _ => none) path .header

/-- Opens the next element of an array of tables. -/
def openElement? (path : List String) (key : String) (entries : Entries) : Option Entries :=
  entries.alter? false (fun _ inner =>
    match inner.get? key with
    | none => some (put key (.tables [.table .header []]) inner)
    | some (.tables elements) =>
      some (put key (.tables (elements ++ [.table .header []])) inner)
    | some _ => none) path .header

end Entries

end Toml

end StrategyDesk
