import StrategyDesk.Proofs.Exchange.Records

/-!
# Messages come back

Every message whose numbers are finite is read back from what it is written as, and so is every
message that was read from some text: in whatever spelling it came, writing and reading it once more
changes nothing.

## Main Definitions

* `MessageKind`, `MessageKind.Content` — what is exchanged with the services, and the notices
* `Wire.ComesBack` — a value that is read back from what it is written as

## Main Statements

* `MessageKind.message_comesBack` — messages come back
-/

namespace StrategyDesk

/-! ## Values that come back -/

/-- The value is read from its document, and from every text that this document is read from. -/
structure Wire.ComesBack {α : Type} [Wire α] (a : α) : Prop where
  document : Wire.ofJson? (toJson a) = some a
  text {text : String} : Json.parse? text = some (toJson a) → Wire.parse? text = some a

namespace LawfulWire

variable {α : Type} [Wire α] [LawfulWire α] {a : α}

theorem comesBack (expressible : Expressible a) : Wire.ComesBack a where
  document := LawfulWire.read expressible
  text {text} printed := by
    unfold Wire.parse?
    rw [printed]
    exact LawfulWire.read expressible

/-- What was read from some text comes back. -/
theorem comesBack_of_parse? {text : String} (read : Wire.parse? text = some a) :
    Wire.ComesBack a := by
  obtain ⟨j, parsed, read⟩ := Option.bind_eq_some_iff.mp read
  exact comesBack (LawfulWire.expressible (Json.readable_of_parse? parsed) read)

end LawfulWire

/-! ## Messages -/

/-- The kinds of messages, and the kinds of their parts. -/
inductive MessageKind where
  | position
  | node
  | connection
  | strategy
  | indicator
  | backtestRequest
  | backtestMetrics
  | equityPoint
  | trade
  | backtestResult
  | backtestProgress
  | controlReply
  | gatewayReport
  | pipelineStart
  | processInfo
  | pipelineInfo
  | decisionStats
  | serviceStatus
  | logLevel
  | logLine
  | logReply
  | runInfo
  | configSummary
  | configDetail
  | configBody
  | newConfig
  | generateParams
  | graphToYaml
  | yamlReply
  | codeReply
  | noticeKind
  | notice
deriving DecidableEq, Repr

namespace MessageKind

/-- What a message of some kind consists of. -/
def Content : MessageKind → Type
  | position => Position
  | node => NormalizedNode
  | connection => NormalizedConnection
  | strategy => NormalizedStrategy
  | indicator => Indicator
  | backtestRequest => BacktestRequest
  | backtestMetrics => BacktestMetrics
  | equityPoint => EquityPoint
  | trade => Trade
  | backtestResult => BacktestResult
  | backtestProgress => BacktestProgress
  | controlReply => ControlReply
  | gatewayReport => GatewayReport
  | pipelineStart => PipelineStart
  | processInfo => ProcessInfo
  | pipelineInfo => PipelineInfo
  | decisionStats => DecisionStats
  | serviceStatus => ServiceStatus
  | logLevel => LogLevel
  | logLine => LogLine
  | logReply => LogReply
  | runInfo => RunInfo
  | configSummary => ConfigSummary
  | configDetail => ConfigDetail
  | configBody => ConfigBody
  | newConfig => NewConfig
  | generateParams => GenerateParams
  | graphToYaml => GraphToYaml
  | yamlReply => YamlReply
  | codeReply => CodeReply
  | noticeKind => NoticeKind
  | notice => Notice

/-- Messages have a written form. -/
instance (kind : MessageKind) : Wire kind.Content :=
  match kind with
  | position => inferInstanceAs (Wire Position)
  | node => inferInstanceAs (Wire NormalizedNode)
  | connection => inferInstanceAs (Wire NormalizedConnection)
  | strategy => inferInstanceAs (Wire NormalizedStrategy)
  | indicator => inferInstanceAs (Wire Indicator)
  | backtestRequest => inferInstanceAs (Wire BacktestRequest)
  | backtestMetrics => inferInstanceAs (Wire BacktestMetrics)
  | equityPoint => inferInstanceAs (Wire EquityPoint)
  | trade => inferInstanceAs (Wire Trade)
  | backtestResult => inferInstanceAs (Wire BacktestResult)
  | backtestProgress => inferInstanceAs (Wire BacktestProgress)
  | controlReply => inferInstanceAs (Wire ControlReply)
  | gatewayReport => inferInstanceAs (Wire GatewayReport)
  | pipelineStart => inferInstanceAs (Wire PipelineStart)
  | processInfo => inferInstanceAs (Wire ProcessInfo)
  | pipelineInfo => inferInstanceAs (Wire PipelineInfo)
  | decisionStats => inferInstanceAs (Wire DecisionStats)
  | serviceStatus => inferInstanceAs (Wire ServiceStatus)
  | logLevel => inferInstanceAs (Wire LogLevel)
  | logLine => inferInstanceAs (Wire LogLine)
  | logReply => inferInstanceAs (Wire LogReply)
  | runInfo => inferInstanceAs (Wire RunInfo)
  | configSummary => inferInstanceAs (Wire ConfigSummary)
  | configDetail => inferInstanceAs (Wire ConfigDetail)
  | configBody => inferInstanceAs (Wire ConfigBody)
  | newConfig => inferInstanceAs (Wire NewConfig)
  | generateParams => inferInstanceAs (Wire GenerateParams)
  | graphToYaml => inferInstanceAs (Wire GraphToYaml)
  | yamlReply => inferInstanceAs (Wire YamlReply)
  | codeReply => inferInstanceAs (Wire CodeReply)
  | noticeKind => inferInstanceAs (Wire NoticeKind)
  | notice => inferInstanceAs (Wire Notice)

/-- The written form of messages loses nothing. -/
instance (kind : MessageKind) : LawfulWire kind.Content :=
  match kind with
  | position => inferInstanceAs (LawfulWire Position)
  | node => inferInstanceAs (LawfulWire NormalizedNode)
  | connection => inferInstanceAs (LawfulWire NormalizedConnection)
  | strategy => inferInstanceAs (LawfulWire NormalizedStrategy)
  | indicator => inferInstanceAs (LawfulWire Indicator)
  | backtestRequest => inferInstanceAs (LawfulWire BacktestRequest)
  | backtestMetrics => inferInstanceAs (LawfulWire BacktestMetrics)
  | equityPoint => inferInstanceAs (LawfulWire EquityPoint)
  | trade => inferInstanceAs (LawfulWire Trade)
  | backtestResult => inferInstanceAs (LawfulWire BacktestResult)
  | backtestProgress => inferInstanceAs (LawfulWire BacktestProgress)
  | controlReply => inferInstanceAs (LawfulWire ControlReply)
  | gatewayReport => inferInstanceAs (LawfulWire GatewayReport)
  | pipelineStart => inferInstanceAs (LawfulWire PipelineStart)
  | processInfo => inferInstanceAs (LawfulWire ProcessInfo)
  | pipelineInfo => inferInstanceAs (LawfulWire PipelineInfo)
  | decisionStats => inferInstanceAs (LawfulWire DecisionStats)
  | serviceStatus => inferInstanceAs (LawfulWire ServiceStatus)
  | logLevel => inferInstanceAs (LawfulWire LogLevel)
  | logLine => inferInstanceAs (LawfulWire LogLine)
  | logReply => inferInstanceAs (LawfulWire LogReply)
  | runInfo => inferInstanceAs (LawfulWire RunInfo)
  | configSummary => inferInstanceAs (LawfulWire ConfigSummary)
  | configDetail => inferInstanceAs (LawfulWire ConfigDetail)
  | configBody => inferInstanceAs (LawfulWire ConfigBody)
  | newConfig => inferInstanceAs (LawfulWire NewConfig)
  | generateParams => inferInstanceAs (LawfulWire GenerateParams)
  | graphToYaml => inferInstanceAs (LawfulWire GraphToYaml)
  | yamlReply => inferInstanceAs (LawfulWire YamlReply)
  | codeReply => inferInstanceAs (LawfulWire CodeReply)
  | noticeKind => inferInstanceAs (LawfulWire NoticeKind)
  | notice => inferInstanceAs (LawfulWire Notice)

/-- **Messages come back**, if their numbers are finite or if they were read from some text. -/
theorem message_comesBack (kind : MessageKind) :
    (∀ message : kind.Content, Expressible message → Wire.ComesBack message) ∧
      ∀ (text : String) (message : kind.Content),
        Wire.parse? text = some message → Wire.ComesBack message :=
  ⟨fun _ => LawfulWire.comesBack, fun _ _ => LawfulWire.comesBack_of_parse?⟩

/-- A report with a count under its other name, a number and a truth value in place of texts, an
unknown field that stands for no value, and fields left out. -/
def looseStatus : String :=
  "\x7b\"timestamp\": 12.50, \"auth_updated\": true, \"next\": [1e999], " ++
    "\"decisions\": \x7b\"total_count\": 3\x7d\x7d"

/-- The standard settings of a config come back, and so does what a loosely written report says. -/
theorem message_comesBack_looseStatus :
    let status : ServiceStatus :=
      ⟨.down, false, some "true", .down, { DecisionStats.none with total := 3 }, some "12.5"⟩
    Wire.ComesBack GenerateParams.default ∧
      Wire.parse? looseStatus = some status ∧ Wire.ComesBack status := by
  intro status
  have cash : GenerateParams.default.startingCash.isFinite = true := by decide +kernel
  have slippage : GenerateParams.default.slippageBps.isFinite = true := rfl
  have read : Wire.parse? looseStatus = some status := by decide +kernel
  exact ⟨(message_comesBack generateParams).1 _ ⟨cash, slippage⟩, read,
    (message_comesBack serviceStatus).2 looseStatus status read⟩

end MessageKind

end StrategyDesk
