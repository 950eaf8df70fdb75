import Std.Async.DNS
import Std.Async.Signal
import Std.Async.TCP
import StrategyDesk.Exchange.Message
import StrategyDesk.Polling.Ticker
import StrategyDesk.Session.Run

/-!
# The command line

Runs of the program in the world: its effects carried out on files, connections and the clock.

## Main Definitions

* `carryOut` — carries out a program
* `main`
-/

namespace StrategyDesk.World

open Std.Async
open Std.Net

/-! ## Files -/

/-- Why something could not be done with a file. -/
def faultOf : IO.Error → FileFault
  | .noFileOrDirectory .. => .notFound
  | .alreadyExists .. => .alreadyExists
  | .inappropriateType _ code details =>
    if code = 20 then .notADirectory else if code = 21 then .isADirectory else .stated details
  | .permissionDenied .. => .stated "Permission denied (os error 13)"
  | e => .stated (toString e)

/-- The result of an action on files, or why there is none. -/
def attempt {α : Type} (action : IO α) : IO (Except FileFault α) := do
  try return .ok (← action) catch e => return .error (faultOf e)

/-- The text of a file. -/
def readText (path : String) : IO (Except FileFault String) := do
  let bytes ← attempt (IO.FS.readBinFile path)
  return bytes.bind fun bytes => (String.fromUTF8? bytes).elim (.error .notText) .ok

/-- There is something at the path. -/
def isThere (path : String) : IO Bool := do
  match ← attempt (IO.FS.Handle.mk path .read) with
  | .error .notFound | .error .notADirectory => return false
  | _ => return true

/-! ## Connections -/

/-- Where a host can be reached. -/
def addresses (url : WebUrl) : IO (Array SocketAddress) := do
  let port := (url.port.getD 80).toUInt16
  let found ← match url.host with
    | .ipv4 .. => pure ((IPv4Addr.ofString url.host.text).toArray.map IPAddr.v4)
    | .ipv6 pieces => pure ((IPv6Addr.ofString (ipv6Text pieces)).toArray.map IPAddr.v6)
    | .domain name => (DNS.getAddrInfo name (toString port)).block
  return found.map fun
    | .v4 address => .v4 ⟨address, port⟩
    | .v6 address => .v6 ⟨address, port⟩

/-- A connection to the first address that takes one. -/
def connect? : List SocketAddress → IO (Option TCP.Socket.Client)
  | [] => return none
  | address :: others => do
    let client ← TCP.Socket.Client.mk
    try
      (client.connect address).block
      return some client
    catch _ => connect? others

/-- Receives bytes until they hold a reply. -/
partial def receive (client : TCP.Socket.Client) (bytes : ByteArray) : IO (Option HttpReply) := do
  match ← (client.recv? 65536).block with
  | none => return HttpReply.ofBytes? true bytes
  | some more =>
    let bytes := bytes ++ more
    match HttpReply.ofBytes? false bytes with
    | some reply => return some reply
    | none => receive client bytes

/-- Sends a request and receives the reply. There are no encrypted connections. -/
def exchange (request : HttpRequest) : IO (Option HttpReply) := do
  if request.url.secure then return none
  try
    match ← connect? (← addresses request.url).toList with
    | none => return none
    | some client =>
      (client.send request.message).block
      receive client ByteArray.empty
  catch _ => return none

/-- Puts a question to a service. -/
def ask (urls : ServiceUrls) (call : Call) : IO (Reply call) := do
  match ← exchange (call.request urls) with
  | some reply => return call.decode reply
  | none => return .error .unreachable

/-! ## Effects -/

/-- The time of day in universal time. -/
def now : IO Timestamp := do
  let time ← Std.Time.Timestamp.now
  let nanos := time.toNanosecondsSinceUnixEpoch.val
  return ⟨nanos / 1000000000, (nanos % 1000000000).toNat⟩

/-- Carries out one effect. -/
def answer : (effect : Effect) → IO effect.Answer
  | .ask urls call => ask urls call
  | .readFile path => readText path
  | .fileExists path => isThere path
  | .makeParents path =>
    let parent := parentPath path
    if parent = "" then return .ok () else attempt (IO.FS.createDirAll parent)
  | .writeFile path text => attempt (IO.FS.writeFile path text)
  | .say text => do
    IO.print text
    (← IO.getStdout).flush
  | .warn text => IO.eprint text
  | .clock => now
  | .rest ms => IO.sleep ms.toUInt32

/-- Waits until a time of the steady clock, at most until people break off. -/
partial def waitUntil (due : Nat) (isBroken : IO Bool) : IO Unit := do
  let time ← IO.monoMsNow
  if time < due ∧ !(← isBroken) then
    IO.sleep (min (due - time) 25).toUInt32
    waitUntil due isBroken

/-- Asks again and again from a state on. -/
partial def pollFrom (p : Poll) (ticker : Ticker) (isBroken : IO Bool) (state : p.State) :
    IO (Option p.Result) := do
  waitUntil ticker.due isBroken
  if ← isBroken then return p.brokenOff.map (· state)
  let ticker := ticker.serve (← IO.monoMsNow)
  let reply ← ask p.urls p.question
  if ← isBroken then return p.brokenOff.map (· state)
  let turn := p.enter state (← now) reply
  answer (.say (Program.lineText turn.lines))
  match turn.next with
  | .inl state => pollFrom p ticker isBroken state
  | .inr result => return some result

/-- Carries out a poll. An interrupt ends one that can be broken off, and the program otherwise. -/
def poll (p : Poll) : IO (Option p.Result) := do
  let time ← IO.monoMsNow
  let ticker : Ticker := ⟨p.period, if p.atOnce then time else time + p.period⟩
  if p.brokenOff.isNone then pollFrom p ticker (return false) p.start
  else
    let waiter ← Signal.Waiter.mk .sigint false
    let interrupt ← waiter.wait
    let result ← pollFrom p ticker (IO.hasFinished interrupt) p.start
    waiter.stop
    return result

/-- Carries out a program. -/
def carryOut {α : Type} : Program α → IO (Option α)
  | .done result => return some result
  | .act effect next => do carryOut (next (← answer effect))
  | .poll p next => do
    match ← poll p with
    | some result => carryOut (next result)
    | none => return none

/-- What a run finds around it. -/
def surroundings : IO Surroundings := do
  let shared ← IO.getEnv "XDG_CONFIG_HOME"
  let home ← IO.getEnv "HOME"
  let folder := (shared.filter (·.startsWith "/")).or (home.map (· ++ "/.config"))
  let isPlain := (← IO.getEnv "NO_COLOR").isSome || !(← (← IO.getStdout).isTty)
  return {
    engineUrl := ← IO.getEnv "ALPHASTRAT_ENGINE_URL"
    compilerUrl := ← IO.getEnv "ALPHASTRAT_COMPILER_URL"
    userFile := folder.map (· ++ "/alphastrat/config.toml")
    palette := if isPlain then .plain else .colored }

end StrategyDesk.World

/-- Runs the command that the arguments give. -/
def main (arguments : List String) : IO UInt32 := do
  let program := StrategyDesk.run (← StrategyDesk.World.surroundings) arguments
  let code ← StrategyDesk.World.carryOut program
  return (code.getD 1).toUInt32
