import StrategyDesk.Rehearsal.Files
import StrategyDesk.Session.Program

/-!
# Trials

A program carried out on files and replies that are laid down beforehand.

## Main Definitions

* `Trial` — the files, the replies still to come, and what was asked and printed
* `Trial.answer` — one effect
* `Trial.poll`, `Trial.carryOut` — a poll, and a whole program

## Design Notes

Replies are laid down by route; the last one of a route repeats, and what is not laid down is not
found. A poll that has not ended by then never ends, and with it the program.
-/

namespace StrategyDesk

structure Trial where
  files : FileTree
  /-- The route of a request, if anyone listens at its address. -/
  route : HttpRequest → Option String
  /-- The replies of each route that are still to come. -/
  replies : List (String × List HttpReply)
  /-- Routes that have given their last reply. -/
  usedUp : List String
  /-- People break off once this route has given its last reply. -/
  breakAfter : Option String
  requests : List HttpRequest
  said : String
  warned : String
  time : Timestamp

namespace Trial

/-- The reply of a route for which none is laid down. -/
def notFound : HttpReply := ⟨404, "\x7b\"detail\":\"Not Found\"\x7d"⟩

/-- The next reply of a route. -/
def next (trial : Trial) (route : String) : Trial × HttpReply :=
  match trial.replies.lookup route with
  | none | some [] => (trial, notFound)
  | some [reply] => ({ trial with usedUp := route :: trial.usedUp }, reply)
  | some (reply :: later) =>
    ({ trial with replies := (route, later) :: trial.replies.filter (·.1 != route) }, reply)

/-- Sends the request of a call and takes the reply. -/
def ask (trial : Trial) (urls : ServiceUrls) (call : Call) : Trial × Reply call :=
  let request := call.request urls
  match trial.route request with
  | none => (trial, .error .unreachable)
  | some route =>
    let (trial, reply) := { trial with requests := trial.requests ++ [request] }.next route
    (trial, call.decode reply)

/-- Changes the files, if that can be done. -/
def change (trial : Trial) (result : Except FileFault FileTree) :
    Trial × Except FileFault Unit :=
  match result with
  | .ok files => ({ trial with files }, .ok ())
  | .error why => (trial, .error why)

/-- One effect and its answer. -/
def answer (trial : Trial) : (effect : Effect) → Trial × effect.Answer
  | .ask urls call => trial.ask urls call
  | .readFile path => (trial, trial.files.read path)
  | .fileExists path => (trial, trial.files.holds path)
  | .makeParents path => trial.change (trial.files.makeParents path)
  | .writeFile path text => trial.change (trial.files.write path text)
  | .say text => ({ trial with said := trial.said ++ text }, ())
  | .warn text => ({ trial with warned := trial.warned ++ text }, ())
  | .clock => (trial, trial.time)
  | .rest _ => (trial, ())

/-- People break off now. -/
def isBroken (trial : Trial) : Bool := (trial.breakAfter.map trial.usedUp.contains).getD false

/-- A poll from a state on, with at most so many questions. -/
def pollFrom (p : Poll) : Nat → p.State → Trial → Trial × Option p.Result
  | 0, _, trial => (trial, none)
  | fuel + 1, state, trial =>
    let (trial, reply) := trial.ask p.urls p.question
    let turn := p.enter state trial.time reply
    let trial := { trial with said := trial.said ++ Program.lineText turn.lines }
    match turn.next with
    | .inr result => (trial, some result)
    | .inl state =>
      if trial.isBroken then (trial, p.brokenOff.map (· state)) else pollFrom p fuel state trial

/-- A poll. A question more than there are replies settles whether it ever ends. -/
def poll (trial : Trial) (p : Poll) : Trial × Option p.Result :=
  pollFrom p (trial.replies.foldl (fun n route => n + route.2.length) 1) p.start trial

/-- Carries out a program. One that does not end gives nothing. -/
def carryOut {α : Type} : Program α → Trial → Trial × Option α
  | .done a, trial => (trial, some a)
  | .act effect next, trial =>
    let (trial, answer) := trial.answer effect
    carryOut (next answer) trial
  | .poll p next, trial =>
    match trial.poll p with
    | (trial, some result) => carryOut (next result) trial
    | (trial, none) => (trial, none)

end Trial

end StrategyDesk
