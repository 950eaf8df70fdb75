import StrategyDesk.Exchange.Call

/-!
# Scripted replies

Replies that are laid down beforehand for each method, and what they mean for a call.

## Main Definitions

* `Script`, `Script.next` — the reply to the next call of a method
* `ScriptedReply.answer` — a scripted reply as the reply to a call
-/

namespace StrategyDesk

/-- A reply laid down beforehand, and how long it takes. -/
structure ScriptedReply where
  outcome : Except Error Json
  delay : Nat

/-- The replies of each method that are still to come. -/
abbrev Script := List (String × List ScriptedReply)

/-- The reply to a method for which nothing is laid down. -/
def unscripted (method : String) : ScriptedReply :=
  ⟨.error (.remote 404 (some s!"unscripted {method}")), 0⟩

/-- The reply to the next call of a method, and the script after it. The last reply of a method
repeats. -/
def Script.next (script : Script) (method : String) : ScriptedReply × Script :=
  match script with
  | [] => (unscripted method, [])
  | (name, replies) :: rest =>
    if name = method then
      match replies with
      | [] => (unscripted method, script)
      | [reply] => (reply, script)
      | reply :: later => (reply, (name, later) :: rest)
    else
      let (reply, rest) := Script.next rest method
      (reply, (name, replies) :: rest)

/-- Why a document is not the answer to a call. -/
def Call.fault (call : Call) (found : Json) : JsonFault :=
  match call with
  | .compile .. | .submitBacktest _ | .graphToYaml _ => .notText found none
  | _ => .malformed

/-- A scripted reply as the reply to a call. One that has not the form of the answer is a JSON
error. -/
def ScriptedReply.answer (reply : ScriptedReply) (call : Call) : Reply call :=
  match reply.outcome with
  | .error e => .error e
  | .ok json =>
    match Wire.ofJson? json with
    | some answer => .ok answer
    | none => .error (.badJson (call.fault json))

end StrategyDesk
