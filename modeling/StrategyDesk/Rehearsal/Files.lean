import StrategyDesk.Error
import StrategyDesk.Text.Layout

/-!
# Files of a rehearsal

A directory with files and directories below it, and what happens when they are read and written.

## Main Definitions

* `FileTree`, `FileTree.ofFiles`
* `FileTree.read`, `FileTree.holds`, `FileTree.makeParents`, `FileTree.write`

## Design Notes

A path is taken part by part; every part but the last must be a directory. A path that ends in a
slash can only mean a directory. Nothing exists outside of the tree.
-/

namespace StrategyDesk

/-- Files and directories by the parts of their paths. -/
structure FileTree where
  files : List (List String × String)
  directories : List (List String)
deriving DecidableEq, Repr

namespace FileTree

/-- The directories above a path, the nearest first. -/
def above (parts : List String) : List (List String) :=
  ((List.range parts.length).map fun n => parts.take n).reverse

/-- The parts of a path. -/
def parts (path : String) : List String := (splitText '/' path).filter fun p => p ≠ "" ∧ p ≠ "."

/-- The tree of files with their texts. -/
def ofFiles (files : List (String × String)) : FileTree :=
  let files := files.map fun (path, text) => (parts path, text)
  ⟨files, [] :: files.flatMap fun (path, _) => above path⟩

def isDirectory (tree : FileTree) (place : List String) : Bool := tree.directories.contains place

def text? (tree : FileTree) (place : List String) : Option String := tree.files.lookup place

/-- Walks from a place along parts, of which each but the last must lead to a directory. -/
def walk (tree : FileTree) (place : List String) : List String → Except FileFault (List String)
  | [] => .ok place
  | part :: rest =>
    if tree.isDirectory place then
      if part = ".." then
        match place with
        | [] => .error .notFound
        | _ => walk tree place.dropLast rest
      else walk tree (place ++ [part]) rest
    else if (tree.text? place).isSome then .error .notADirectory
    else .error .notFound

/-- The path is to be a directory. -/
def endsInSlash (path : String) : Bool := path.toList.getLast? == some '/'

/-- The place that a path leads to, whether or not anything is there. -/
def locate (tree : FileTree) (path : String) : Except FileFault (List String) :=
  if path = "" ∨ path.toList.head? = some '/' then .error .notFound
  else tree.walk [] (parts path)

/-- The text of a file. -/
def read (tree : FileTree) (path : String) : Except FileFault String := do
  let place ← tree.locate path
  if tree.isDirectory place then throw .isADirectory
  match tree.text? place with
  | some text => if endsInSlash path then throw .notADirectory else return text
  | none => throw .notFound

/-- There is something at the path. -/
def holds (tree : FileTree) (path : String) : Bool :=
  match tree.read path with
  | .ok _ | .error .isADirectory => true
  | .error _ => false

/-- Writes a file, whose directory must be there. -/
def write (tree : FileTree) (path text : String) : Except FileFault FileTree := do
  let place ← tree.locate path
  if tree.isDirectory place then throw .isADirectory
  if endsInSlash path then
    throw (if (tree.text? place).isSome then .notADirectory else .isADirectory)
  return { tree with files := (place, text) :: tree.files.filter (·.1 ≠ place) }

/-- Makes the directories at the front of a list, the deepest of which comes last. -/
def makeAll (tree : FileTree) : List (List String) → Except FileFault FileTree
  | [] => .ok tree
  | place :: rest =>
    if tree.isDirectory place then makeAll tree rest
    else if (tree.text? place).isSome then
      .error (if rest.isEmpty then .alreadyExists else .notADirectory)
    else makeAll { tree with directories := tree.directories ++ [place] } rest

/-- Makes the directories that a file at the path needs. -/
def makeParents (tree : FileTree) (path : String) : Except FileFault FileTree :=
  tree.makeAll (above (parts path)).reverse

end FileTree

end StrategyDesk
