import StrategyDesk.Exchange.Http
import StrategyDesk.Notice

/-!
# Programs

What the command line does to the world around it, as data: a program is a tree of effects, each
of which is answered before the program goes on.

## Main Definitions

* `Effect`, `Effect.Answer`
* `Poll` — a question that is asked again and again, and what is made of the replies
* `Program` — a computation with effects
* `Failure` — why a command came to nothing
* `Session` — a computation that may fail and leaves notices

## Design Notes

A program is well founded, so what may go on without end has to be a `Poll`. Whoever carries a
program out decides how long to go on.
-/

namespace StrategyDesk

/-! ## Effects -/

/-- One thing that is done to the world. -/
inductive Effect where
  /-- A question to one of the services at these addresses. -/
  | ask (urls : ServiceUrls) (call : Call)
  | readFile (path : String)
  | fileExists (path : String)
  /-- Makes the directories that a file at the path needs. -/
  | makeParents (path : String)
  | writeFile (path text : String)
  /-- Prints a text. -/
  | say (text : String)
  /-- Prints a text where errors and notices go. -/
  | warn (text : String)
  /-- Tells the time. -/
  | clock
  /-- Waits for some milliseconds. -/
  | rest (ms : Nat)

/-- What an effect is answered with. -/
def Effect.Answer : Effect → Type
  | ask _ call => Reply call
  | readFile _ => Except FileFault String
  | fileExists _ => Bool
  | makeParents _ | writeFile .. => Except FileFault Unit
  | say _ | warn _ | rest _ => Unit
  | clock => Timestamp

/-- What a reply makes of a poll: lines to print, and the state in which it goes on or the result
with which it ends. -/
structure Turn (State Result : Type) where
  lines : List String
  next : State ⊕ Result

/-- A question that is asked again after each period. -/
structure Poll where
  State : Type
  Result : Type
  start : State
  urls : ServiceUrls
  question : Call
  period : Nat
  /-- The first question is asked at once, not after a period. -/
  atOnce : Bool
  /-- Takes a reply at a time. -/
  enter : State → Timestamp → Reply question → Turn State Result
  /-- The result when people break the poll off; without one that ends the program. -/
  brokenOff : Option (State → Result)

/-! ## Programs -/

/-- A computation with effects. -/
inductive Program (α : Type) where
  | done (result : α)
  | act (effect : Effect) (next : effect.Answer → Program α)
  | poll (poll : Poll) (next : poll.Result → Program α)

namespace Program

variable {α β : Type}

/-- Goes on with the result of a program. -/
def bind (p : Program α) (next : α → Program β) : Program β :=
  match p with
  | done a => next a
  | act effect k => act effect fun answer => (k answer).bind next
  | poll p k => poll p fun result => (k result).bind next

instance : Monad Program where
  pure := done
  bind := bind

/-- One effect, and its answer as the result. -/
def perform (effect : Effect) : Program effect.Answer := act effect done

/-- A dialogue with the services at these addresses. -/
def ofDialogue (urls : ServiceUrls) : Dialogue α → Program α
  | .done a => done a
  | .ask call next => act (.ask urls call) fun reply => ofDialogue urls (next reply)

/-- Lines with their ends. -/
def lineText (lines : List String) : String := String.join (lines.map (· ++ "\n"))

end Program

/-! ## Sessions -/

/-- Why a command came to nothing. -/
inductive Failure where
  | error (e : Error)
  | fileExists (path : String)
  | unreadable (path : String) (why : FileFault)
  | unwritable (path : String) (why : FileFault)
  | unknownIndicator (name : String)
  | unknownNode (id : String)
  | unknownEdge (index : Nat)
  | rejectedInput (text : String)
  | startNode
  | noStatus
  /-- A service tells why. -/
  | told (message : String)
deriving DecidableEq

/-- What people are told of a failure. -/
def Failure.message : Failure → String
  | error e => e.message
  | fileExists path => s!"File already exists: {path}"
  | unreadable path why => s!"Failed to read {path}: {why.text}"
  | unwritable path why => s!"Failed to write {path}: {why.text}"
  | unknownIndicator name => s!"Unknown indicator '{name}'"
  | unknownNode id => s!"No node with id '{id}'"
  | unknownEdge index => s!"No edge #{index}"
  | rejectedInput text => text
  | startNode => "The start node cannot be removed"
  | noStatus => "Engine status unavailable"
  | told message => message

/-- A computation that may fail and leaves notices. -/
abbrev Session := ExceptT Failure (StateT Notices Program)

namespace Session

variable {α : Type}

/-- A program as a part of a session. -/
def ofProgram (p : Program α) : Session α := ExceptT.lift (StateT.lift p)

/-- One effect. -/
def perform (effect : Effect) : Session effect.Answer := ofProgram (.perform effect)

/-- A result, or the failure to have one. -/
def orFail (result : Except Failure α) : Session α := ExceptT.mk (pure result)

/-- A result, or the failure that its error is. -/
def require (result : Except Error α) : Session α := orFail (result.mapError .error)

/-- Prints lines. -/
def sayLines (lines : List String) : Session Unit :=
  if lines.isEmpty then pure () else perform (.say (Program.lineText lines))

/-- Leaves a notice. -/
def notify (kind : NoticeKind) (text : String) : Session Unit := do
  let now : Timestamp ← perform .clock
  modify fun notices => (notices.push kind text now).1

/-- Asks again and again until there is a result. -/
def poll (p : Poll) : Session p.Result := ofProgram (.poll p .done)

end Session

end StrategyDesk
