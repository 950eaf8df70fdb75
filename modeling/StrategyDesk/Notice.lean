import StrategyDesk.Error
import StrategyDesk.Strategy.Node
import StrategyDesk.Timestamp

/-!
# Notices

Messages to people that stay until they are dismissed.

## Main Definitions

* `Notice`, `Notices`
* `Notices.push`, `Notices.dismiss`, `Notices.latest?`
-/

namespace StrategyDesk

inductive NoticeKind where
  | success
  | error
  | info
deriving DecidableEq, Repr

def NoticeKind.name : NoticeKind → String
  | success => "success"
  | error => "error"
  | info => "info"

instance : Wire NoticeKind where
  toJson kind := .string kind.name
  ofJson? := Json.variant? [("success", .success), ("error", .error), ("info", .info)]

structure Notice where
  id : UInt64
  kind : NoticeKind
  text : String
  createdAt : Timestamp
deriving DecidableEq, Repr

instance : Wire Notice where
  toJson n := .record [always "id" n.id, always "kind" n.kind, always "text" n.text,
    always "created_at" n.createdAt]
  ofJson? j := do
    match ← j.slots? [["id"], ["kind"], ["text"], ["created_at"]] with
    | [id, kind, text, createdAt] =>
      some { id := ← id.required, kind := ← kind.required, text := ← text.required
             createdAt := ← createdAt.required }
    | _ => none

/-- The notices on show, in the order in which they came. -/
structure Notices where
  items : List Notice
  /-- The id last given out. -/
  lastId : UInt64
deriving DecidableEq, Repr

namespace Notices

def empty : Notices := ⟨[], 0⟩

/-- Adds a notice under a new id, and gives the id. -/
def push (notices : Notices) (kind : NoticeKind) (text : String) (now : Timestamp) :
    Notices × UInt64 :=
  let id := notices.lastId + 1
  (⟨notices.items ++ [⟨id, kind, text, now⟩], id⟩, id)

/-- Adds a notice of an error, in its short wording. -/
def pushError (notices : Notices) (error : Error) (now : Timestamp) : Notices × UInt64 :=
  notices.push .error error.message now

/-- Takes the notice with an id away, and tells whether there was one. -/
def dismiss (notices : Notices) (id : UInt64) : Notices × Bool :=
  ({ notices with items := notices.items.filter (·.id != id) }, notices.items.any (·.id == id))

/-- The notice that came last. -/
def latest? (notices : Notices) : Option Notice := notices.items.getLast?

end Notices

end StrategyDesk
