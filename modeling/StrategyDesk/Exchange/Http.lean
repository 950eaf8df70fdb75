import StrategyDesk.Exchange.Call
import StrategyDesk.Settings.Validate

/-!
# Calls over HTTP

Each call as a request to one of the services, and the meaning of the reply.

## Main Definitions

* `Call.request` — method, address and body of a call
* `Call.decode` — what a reply means
-/

namespace StrategyDesk

/-- The two services. -/
inductive Service where
  | compiler
  | engine
deriving DecidableEq, Repr

/-- The verbs of requests. -/
inductive Verb where
  | get
  | post
  | put
  | delete
deriving DecidableEq, Repr

def Verb.name : Verb → String
  | get => "GET"
  | post => "POST"
  | put => "PUT"
  | delete => "DELETE"

structure HttpRequest where
  service : Service
  verb : Verb
  url : WebUrl
  /-- A JSON body. -/
  body : Option Json
deriving DecidableEq

structure HttpReply where
  status : Nat
  body : String
deriving DecidableEq, Repr

namespace Call

/-- The service that answers a call. -/
def service : Call → Service
  | indicators | compile .. => .compiler
  | _ => .engine

/-- The verb of a call. -/
def verb : Call → Verb
  | compile .. | submitBacktest _ | gatewayStart | gatewayStop | gatewayLogin | pipelineStart _
  | pipelineStop | createConfig _ | graphToYaml _ => .post
  | updateConfig .. => .put
  | deleteConfig _ => .delete
  | indicators | backtestProgress _ | status | logs .. | logRuns | gatewayJob _ | listConfigs
  | getConfig _ => .get

/-- The segments below the base address of the service. -/
def segments : Call → List String
  | indicators => ["api", "indicators"]
  | compile .. => ["api", "compile", "temp"]
  | submitBacktest _ => ["api", "backtest"]
  | backtestProgress jobId => ["api", "backtest", "progress", jobId]
  | status => ["api", "status"]
  | logs .. => ["api", "logs"]
  | logRuns => ["api", "logs", "runs"]
  | gatewayStart => ["api", "gateway", "start"]
  | gatewayStop => ["api", "gateway", "stop"]
  | gatewayLogin => ["api", "gateway", "login"]
  | gatewayJob jobId => ["api", "gateway", "job", jobId]
  | pipelineStart _ => ["api", "pipeline", "start"]
  | pipelineStop => ["api", "pipeline", "stop"]
  | listConfigs => ["api", "configs"]
  | getConfig name | updateConfig name _ | deleteConfig name => ["api", "configs", name]
  | createConfig _ => ["api", "configs", "new"]
  | graphToYaml _ => ["api", "graph-to-yaml"]

/-- The names and values in the query. -/
def query : Call → List (String × String)
  | compile _ platform => [("target", platform)]
  | logs source lines => [("lines", toString lines), ("source", source)]
  | _ => []

/-- The body; control calls without content send an empty object. -/
def body : Call → Option Json
  | compile strategy _ => some (toJson strategy)
  | submitBacktest request => some (toJson request)
  | gatewayStart | gatewayStop | gatewayLogin | pipelineStop => some (.object [])
  | pipelineStart request => some (toJson request)
  | updateConfig _ yaml => some (toJson (ConfigBody.mk yaml))
  | createConfig config => some (toJson config)
  | graphToYaml request => some (toJson request)
  | indicators | backtestProgress _ | status | logs .. | logRuns | gatewayJob _ | listConfigs
  | getConfig _ | deleteConfig _ => none

/-- The request of a call. -/
def request (urls : ServiceUrls) (call : Call) : HttpRequest where
  service := call.service
  verb := call.verb
  url :=
    let base := match call.service with
      | .compiler => urls.compiler
      | .engine => urls.engine
    call.query.foldl (fun url (name, value) => url.addQuery name value) (base.join call.segments)
  body := call.body

end Call

namespace HttpReply

/-- The statuses of success. -/
def isSuccess (r : HttpReply) : Bool := 200 ≤ r.status && r.status < 300

/-- The statuses whose replies have no body. -/
def isBare (r : HttpReply) : Bool := r.status == 204 || r.status == 304

/-- The bytes of the body. -/
def content (r : HttpReply) : String := if r.isBare then "" else r.body

/-- The body as text; a byte order mark before it does not belong to it. -/
def text (r : HttpReply) : String :=
  match r.content.toList with
  | c :: rest => if c.toNat = 0xFEFF then String.ofList rest else r.content
  | [] => ""

/-- What the server says about a failure. -/
def detail (r : HttpReply) : Option String := (Wire.parse? r.text).bind ErrorReply.text?

/-- The error of a reply that is no success. -/
def error (r : HttpReply) : Error :=
  if r.status = 409 then .conflict (r.detail.getD "Resource already exists")
  else .remote r.status r.detail

/-- The body read as a value. -/
def read {α : Type} [Wire α] (r : HttpReply) : Except Error α :=
  match Wire.parse? r.content with
  | some a => .ok a
  | none => .error (.undecodable .malformed)

/-- Why a body is no record with a text under a name. -/
def textFieldFault (body name : String) : JsonFault :=
  let chars := body.toList
  let read (rest : List Char) : TextPlace := .after (chars.take (chars.length - rest.length))
  if (Json.skipSpace chars).isEmpty then .noValue (.after chars)
  else
    match Json.readValue? (2 * chars.length + 2) Json.depthLimit chars with
    | some (.object fields, rest) =>
      if (fields.lookup name).isNone then .missingField name (read rest) else .malformed
    | _ => .malformed

/-- The text under a name in the record that the body holds. -/
def readTextField {α : Type} [Wire α] (r : HttpReply) (name : String) (get : α → String) :
    Except Error String :=
  match Wire.parse? r.content with
  | some a => .ok (get a)
  | none => .error (.undecodable (textFieldFault r.content name))

end HttpReply

/-- The job id in a reply to a submission: a text that is not empty, or a number. -/
def jobId? (body : String) : Option String := do
  let value ← Wire.parse? (α := Value) body
  let id ← match value.json with
    | .object fields => fields.lookup "job_id"
    | _ => none
  match id with
  | .string s => if s = "" then none else some s
  | .number n => some n.text
  | _ => none

/-- What a reply of success means. -/
def Call.decodeSuccess (r : HttpReply) : (call : Call) → Reply call
  | .compile .. => r.readTextField "code" CodeReply.code
  | .graphToYaml _ => r.readTextField "yaml" YamlReply.yaml
  | .logs .. => r.read.map LogReply.lines
  | .submitBacktest _ =>
    match jobId? r.text with
    | some id => .ok id
    | none => .error (.missingJobId r.text)
  | .updateConfig .. | .createConfig _ | .deleteConfig _ => .ok ()
  | .indicators => (r.read : Except Error (List Indicator))
  | .backtestProgress _ => (r.read : Except Error BacktestProgress)
  | .status => (r.read : Except Error ServiceStatus)
  | .logRuns => (r.read : Except Error (List RunInfo))
  | .gatewayStart | .gatewayStop | .gatewayLogin | .pipelineStart _ | .pipelineStop =>
    (r.read : Except Error ControlReply)
  | .gatewayJob _ => (r.read : Except Error GatewayReport)
  | .listConfigs => (r.read : Except Error (List ConfigSummary))
  | .getConfig _ => (r.read : Except Error ConfigDetail)

/-- What a reply to a call means. -/
def Call.decode (call : Call) (r : HttpReply) : Reply call :=
  if r.isSuccess then call.decodeSuccess r else .error r.error

end StrategyDesk
