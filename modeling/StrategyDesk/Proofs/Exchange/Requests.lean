import StrategyDesk.Proofs.Client.Checks
import StrategyDesk.Proofs.Exchange.Messages
import StrategyDesk.Proofs.Strategy.RoundTrip

/-!
# Requests that are made of strategies

A submission and a request for a config carry a strategy that was read from a document, and two
numbers that were typed.  The strategy comes back, since documents have no other numbers than finite
ones.  The numbers of a form are checked, and so a submission comes back.  Those of a request for a
config are not: one that is typed as infinite is written as `null`, and then the request does not
come back.

## Main Definitions

* `Json.at?`, `Json.SaysNumber` — what a document says at a place, and that this is a number
* `BacktestRequest.SentWhole` — a submission that comes back, with both numbers in it
* `ReadsFinite` — no typed text stands for something that is not finite

## Main Statements

* `Graph.isPlaced_of_parse` — the nodes of a strategy that was read stand at places of the canvas
* `BacktestParams.sentWhole_request` — a submission that is made from a form is sent whole
* `GraphToYaml.comesBack_iff` — a request for a config comes back if both its numbers are finite,
  and only then
* `isFinite_numberOr_iff` — typed numbers that are finite
-/

namespace StrategyDesk

open Slot

/-! ## Strategies that were read -/

instance : LawfulWire DocumentNode where
  Expressible n := Expressible n.position
  read position := Json.read_record rfl (by simp) (by simp [always, whenPresent, position])
  expressible readable read := by
    obtain ⟨slots, each, read⟩ := Json.exists_readable_slots readable read
    split at read
    · simp only [List.forall_mem_cons] at each
      simp only [Option.bind_eq_bind, Option.bind_eq_some_iff, Option.some.injEq] at read
      obtain ⟨_, _, _, position, -⟩ := each
      obtain ⟨_, -, _, -, _, -, _, position', rfl⟩ := read
      exact expressible_orElse position ⟨rfl, rfl⟩ position'
    · cases read

/-- The nodes of a document that was read stand at places of the canvas. -/
theorem Document.isFinite_of_parse? {text : String} {document : Document}
    (parsed : Wire.parse? text = some document) :
    ∀ node ∈ document.nodes, node.position.IsFinite := by
  obtain ⟨j, parsed, read⟩ := Option.bind_eq_some_iff.mp parsed
  obtain ⟨slots, each, read⟩ :=
    Json.exists_readable_slots (Json.readable_of_parse? parsed) read
  split at read
  · simp only [List.forall_mem_cons] at each
    simp only [Option.bind_eq_bind, Option.bind_eq_some_iff, Option.some.injEq] at read
    obtain ⟨_, nodes, -⟩ := each
    obtain ⟨_, -, _, nodes', _, -, _, -, _, -, rfl⟩ := read
    exact expressible_orElse nodes expressible_nil nodes'
  · cases read

namespace Graph

/-- **The nodes of a strategy that was read** stand at places of the canvas. -/
theorem isPlaced_of_parse {text : String} {graph : Graph} (parsed : Graph.parse text = .ok graph) :
    graph.IsPlaced := by
  unfold Graph.parse Document.parse at parsed
  cases read : (Wire.parse? text : Option Document) with
  | none =>
      rw [read] at parsed
      cases parsed
  | some document =>
      rw [read] at parsed
      cases parsed
      exact List.forall_mem_map.mpr (Document.isFinite_of_parse? read)

/-- The normalized nodes stand where the nodes do. -/
theorem IsPlaced.expressible_nodes {graph : Graph} (placed : graph.IsPlaced) (name : String)
    (platform : Option String) : Expressible (graph.normalize name platform).nodes :=
  List.forall_mem_map.mpr placed

end Graph

/-! ## Numbers in documents -/

/-- What a document says at a place, given by the names of the fields that lead there. -/
def Json.at? : Json → List String → Option Json
  | j, [] => some j
  | .object fields, name :: rest => (fields.lookup name).bind fun j => j.at? rest
  | _, _ :: _ => none

/-- The document says a number at a place. -/
def Json.SaysNumber (j : Json) (place : List String) : Prop := ∃ n, j.at? place = some (.number n)

namespace Binary64

variable {x : Binary64}

theorem toJson_of_not_isFinite (endless : ¬x.isFinite = true) : toJson x = .null := if_neg endless

/-- A number is written as one if it is finite, and only then. -/
theorem toJson_eq_number_iff : (∃ n, toJson x = .number n) ↔ x.isFinite = true := by
  constructor
  · rintro ⟨n, written⟩
    by_contra endless
    rw [toJson_of_not_isFinite endless] at written
    cases written
  · intro finite
    exact ⟨.float x, if_pos finite⟩

/-- A number is read from its document if it is finite, and only then. -/
theorem ofJson?_toJson_iff : Wire.ofJson? (toJson x) = some x ↔ x.isFinite = true := by
  refine ⟨fun read => ?_, fun finite => LawfulWire.read (show Expressible x from finite)⟩
  by_contra endless
  rw [toJson_of_not_isFinite endless] at read
  cases read

end Binary64

/-! ## Submissions -/

/-- A submission comes back, and both numbers in it are sent as such. -/
structure BacktestRequest.SentWhole (request : BacktestRequest) : Prop where
  comesBack : Wire.ComesBack request
  cash : (toJson request).SaysNumber ["starting_cash"]
  slippage : (toJson request).SaysNumber ["slippage_bps"]

/-- **A submission that is made from a form is sent whole.** -/
theorem BacktestParams.sentWhole_request {form : BacktestForm} {params : BacktestParams}
    (parsed : form.parse = .ok params) {graph : Graph} (placed : graph.IsPlaced) :
    (params.request graph).SentWhole := by
  -- The form has checked the very numbers that the submission carries.
  have usable := BacktestForm.isUsable_of_parse parsed graph
  have strategy : Expressible (params.request graph).strategy := placed.expressible_nodes _ _
  have fee : (params.request graph).feeBps.isFinite = true := rfl
  have expressible : Expressible (params.request graph) :=
    ⟨strategy, usable.cash, usable.slippage, fee⟩
  refine ⟨LawfulWire.comesBack expressible, ?_, ?_⟩
  · obtain ⟨n, written⟩ := Binary64.toJson_eq_number_iff.mpr usable.cash
    exact ⟨n, congrArg some written⟩
  · obtain ⟨n, written⟩ := Binary64.toJson_eq_number_iff.mpr usable.slippage
    exact ⟨n, congrArg some written⟩

/-! ## Requests for configs -/

namespace GenerateParams

variable {params : GenerateParams}

/-- The settings of a config are read from their document if both numbers are finite, and only
then. -/
theorem ofJson?_toJson_iff : Wire.ofJson? (toJson params) = some params ↔
    params.startingCash.isFinite = true ∧ params.slippageBps.isFinite = true := by
  refine ⟨fun read => ?_, fun finite => LawfulWire.read (show Expressible params from finite)⟩
  have slots : (toJson params).slots? [["starting_cash"], ["slippage_bps"], ["dry_run"]] =
      some [given (toJson params.startingCash), given (toJson params.slippageBps),
        given (toJson params.dryRun)] :=
    Json.slots?_record (by simp [always])
  change ((toJson params).slots? _).bind _ = some params at read
  rw [slots] at read
  simp only [Option.bind_eq_bind, Option.bind_some, Option.bind_eq_some_iff,
    Option.some.injEq] at read
  obtain ⟨cash, readCash, slippage, readSlippage, _, -, rfl⟩ := read
  exact ⟨Binary64.ofJson?_toJson_iff.mp readCash, Binary64.ofJson?_toJson_iff.mp readSlippage⟩

end GenerateParams

/-- **A request for a config comes back** if both its numbers are finite, and only then. -/
theorem GraphToYaml.comesBack_iff {request : GraphToYaml} (nodes : Expressible request.nodes) :
    Wire.ComesBack request ↔
      request.params.startingCash.isFinite = true ∧ request.params.slippageBps.isFinite = true := by
  constructor
  · intro back
    have read := back.document
    have slots : (toJson request).slots? [["nodes"], ["connections"], ["name"], ["symbols"],
        ["params"]] = some [given (toJson request.nodes), given (toJson request.connections),
          given (toJson request.name), given (toJson request.symbols),
          given (toJson request.params)] :=
      Json.slots?_record (by simp [always])
    -- The settings are read from a field of their own, and come back from it.
    change ((toJson request).slots? _).bind _ = some request at read
    rw [slots] at read
    simp only [Option.bind_eq_bind, Option.bind_some, Option.bind_eq_some_iff,
      Option.some.injEq] at read
    obtain ⟨_, -, _, -, _, -, _, -, params, readParams, rfl⟩ := read
    exact GenerateParams.ofJson?_toJson_iff.mp readParams
  · intro finite
    exact LawfulWire.comesBack (show Expressible request from ⟨nodes, finite⟩)

/-- No text was typed that stands for something that is not finite.  What stands for nothing, typed
or not, gives way to a fallback. -/
def ReadsFinite (typed : Option String) : Prop :=
  ∀ text ∈ typed, ∀ x ∈ Binary64.parse? (trimChars text.toList), x.isFinite = true

instance (typed : Option String) : Decidable (ReadsFinite typed) :=
  inferInstanceAs (Decidable (∀ text ∈ typed, ∀ x ∈ Binary64.parse? (trimChars text.toList), _))

/-- **A typed number, or its fallback, is finite** unless the text stands for something else. -/
theorem isFinite_numberOr_iff {fallback : Binary64} (finite : fallback.isFinite = true)
    (typed : Option String) : (numberOr fallback typed).isFinite = true ↔ ReadsFinite typed := by
  unfold numberOr ReadsFinite
  cases typed with
  | none => exact iff_of_true finite nofun
  | some text =>
      rw [Option.bind_some]
      constructor
      · intro taken typed same x read
        obtain rfl : text = typed := Option.some.inj same
        rw [read] at taken
        exact taken
      · intro each
        cases read : Binary64.parse? (trimChars text.toList) with
        | none => exact finite
        | some x => exact each text rfl x read

namespace GenerateParams

variable {cash slippage : Option String} {live : Bool}

theorem isFinite_startingCash_ofTexts :
    (ofTexts cash slippage live).startingCash.isFinite = true ↔ ReadsFinite cash := by
  have standard : default.startingCash.isFinite = true := by decide +kernel
  exact isFinite_numberOr_iff standard cash

theorem isFinite_slippageBps_ofTexts :
    (ofTexts cash slippage live).slippageBps.isFinite = true ↔ ReadsFinite slippage := by
  have standard : default.slippageBps.isFinite = true := rfl
  exact isFinite_numberOr_iff standard slippage

end GenerateParams

/-- A request for a config carries the nodes of the strategy and the settings. -/
theorem generateRequest_eq_ok {graph : Graph} {name : Option String} {symbols : String}
    {params : GenerateParams} {request : GraphToYaml}
    (made : generateRequest graph name symbols params = .ok request) :
    request.nodes = graph.nodes.map Node.normalize ∧ request.params = params := by
  unfold generateRequest at made
  split at made
  · cases made
  · obtain rfl := Except.ok.inj made
    exact ⟨rfl, rfl⟩

/-- A request for a config comes back if the texts of both its numbers read as finite ones, and only
then.  Each number is sent as such if its text does, and only then. -/
structure GraphToYaml.SentAsTyped (request : GraphToYaml) (cash slippage : Option String) :
    Prop where
  comesBack : Wire.ComesBack request ↔ ReadsFinite cash ∧ ReadsFinite slippage
  cash : (toJson request).SaysNumber ["params", "starting_cash"] ↔ ReadsFinite cash
  slippage : (toJson request).SaysNumber ["params", "slippage_bps"] ↔ ReadsFinite slippage

/-- **A request for a config is sent as its numbers were typed.** -/
theorem sentAsTyped_generateRequest {graph : Graph} {name cash slippage : Option String}
    {symbols : String} {live : Bool} {request : GraphToYaml} (placed : graph.IsPlaced)
    (made : generateRequest graph name symbols (.ofTexts cash slippage live) = .ok request) :
    request.SentAsTyped cash slippage := by
  obtain ⟨nodes, params⟩ := generateRequest_eq_ok made
  have expressible : Expressible request.nodes := nodes ▸ List.forall_mem_map.mpr placed
  have first : request.params.startingCash.isFinite = true ↔ ReadsFinite cash :=
    params ▸ GenerateParams.isFinite_startingCash_ofTexts
  have second : request.params.slippageBps.isFinite = true ↔ ReadsFinite slippage :=
    params ▸ GenerateParams.isFinite_slippageBps_ofTexts
  refine ⟨?_, ?_, ?_⟩
  · rw [GraphToYaml.comesBack_iff expressible, first, second]
  · rw [← first, ← Binary64.toJson_eq_number_iff]
    exact exists_congr fun n => Option.some_inj
  · rw [← second, ← Binary64.toJson_eq_number_iff]
    exact exists_congr fun n => Option.some_inj

end StrategyDesk
