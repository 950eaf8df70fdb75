import StrategyDesk.Proofs.Exchange.Requests
import StrategyDesk.Proofs.Session.Calls

/-!
# Bodies that a session sends

Whatever is in a file and whatever is typed, a backtest sends only submissions that come back, with
numbers in them.  A request for a config is sent as its numbers were typed, and so it need not come
back.

## Main Definitions

* `Call.SubmitsWhole`, `Call.GeneratesAsTyped` — what holds of the questions of the two commands
* `Desk.twoNodes` — the text of a document that a config can be generated from

## Main Statements

* `Desk.asksOnly_backtest`, `Desk.asksOnly_generate` — what the two commands can come to ask
* `Desk.bodies_sentAsTyped` — the bodies that they send, whatever is typed
* `Desk.generated_body_may_not_comeBack` — an infinite amount of cash makes a request that does not
  come back
-/

namespace StrategyDesk

namespace Call

/-- What is submitted is sent whole. -/
def SubmitsWhole : Call → Prop
  | submitBacktest request => request.SentWhole
  | _ => True

/-- What a config is generated from is sent as these numbers were typed. -/
def GeneratesAsTyped (cash slippage : Option String) : Call → Prop
  | graphToYaml request => request.SentAsTyped cash slippage
  | _ => True

end Call

variable {P : Call → Prop}

/-! ## Conversations about configs -/

theorem asksOnly_createConfig (creates : ∀ config, P (.createConfig config))
    (loads : ∀ name, P (.getConfig name)) (name : String) (yaml : Option String) :
    (createConfig name yaml).AsksOnly P := by
  unfold createConfig
  dsimp only
  split
  · exact .done
  · refine .ask (creates _) fun reply => ?_
    cases reply with
    | error e => exact .done
    | ok done => exact Dialogue.asksOnly_question (loads _)

theorem asksOnly_generateConfig {graph : Graph} {name : Option String} {symbols : String}
    {params : GenerateParams}
    (holds : ∀ request, generateRequest graph name symbols params = .ok request →
      P (.graphToYaml request)) : (generateConfig graph name symbols params).AsksOnly P := by
  unfold generateConfig
  split
  · exact .done
  · next request made => exact Dialogue.asksOnly_question (holds request made)

namespace Desk

variable (desk : Desk) (path : String)

/-! ## Backtests -/

/-- **A backtest submits nothing that is not sent whole.** -/
theorem asksOnly_backtest (texts : FormTexts) :
    (desk.backtest path texts).AsksOnly Call.SubmitsWhole := by
  refine (Session.ensures_readGraph path).bind fun graph ⟨text, read⟩ => ?_
  refine (Session.ensures_require fun _ parsed => parsed).bind fun params parsed => ?_
  have whole : (Call.submitBacktest (params.request graph)).SubmitsWhole :=
    BacktestParams.sentWhole_request parsed (Graph.isPlaced_of_parse read)
  refine (asksOnly_ask whole).bind fun id _ => ?_
  have polls : (desk.progress id).question.SubmitsWhole := trivial
  -- What is asked on the way to the result has no body, and the result asks for nothing.
  refine (Session.asksOnly_poll polls).bind fun final _ => ?_
  cases final with
  | completed job =>
      exact (Session.asksOnly_sayLines _).bind fun _ _ => Session.asksOnly_notify _ _
  | failed id message => exact Session.ensures_throw _
  | idle | submitting | polling _ => exact Session.ensures_pure trivial

/-! ## Generated configs -/

theorem asksOnly_storeConfig (creates : ∀ config, P (.createConfig config))
    (loads : ∀ name, P (.getConfig name)) (name : String) (yaml : Option String) :
    (desk.createConfig name yaml).AsksOnly P :=
  (asksOnly_obtain (asksOnly_createConfig creates loads name yaml)).bind fun _ _ =>
    Session.asksOnly_notify _ _

/-- **A config is generated with requests that are sent as their numbers were typed.** -/
theorem asksOnly_generate (name : Option String) (symbols : String)
    (cash slippage : Option String) (live : Bool) (saveAs : Option String) :
    (desk.config (.generate path name symbols (.ofTexts cash slippage live) saveAs)).AsksOnly
      (Call.GeneratesAsTyped cash slippage) := by
  refine (Session.ensures_readGraph path).bind fun graph ⟨text, read⟩ => ?_
  have generates : (generateConfig graph (name.or (some graph.name)) symbols
      (.ofTexts cash slippage live)).AsksOnly (Call.GeneratesAsTyped cash slippage) :=
    asksOnly_generateConfig fun _ made =>
      sentAsTyped_generateRequest (Graph.isPlaced_of_parse read) made
  refine (asksOnly_obtain generates).bind fun yaml _ => ?_
  cases saveAs with
  | none => exact Session.asksOnly_say yaml
  | some target =>
      exact desk.asksOnly_storeConfig (fun _ => trivial) (fun _ => trivial) target (some yaml)

/-- A config can be generated from every document that there is a request for. -/
theorem asksOnly_generate_imp {name saveAs : Option String} {symbols : String}
    {params : GenerateParams}
    (asks : (desk.config (.generate path name symbols params saveAs)).AsksOnly P) {text : String}
    {graph : Graph} (parsed : Graph.parse text = .ok graph) {request : GraphToYaml}
    (made : generateRequest graph (name.or (some graph.name)) symbols params = .ok request) :
    P (.graphToYaml request) := by
  have generates := Session.Ensures.of_readGraph asks parsed .empty
  unfold generateConfig at generates
  rw [made] at generates
  cases generates with
  | act asks _ => exact asks _ rfl

/-! ## The bodies of all sessions -/

/-- **Bodies are sent as they were typed.**  Whatever is in the file and whatever is typed, all
submissions of a backtest come back and have numbers in them.  A request for a config has a number
for each text that reads as a finite one, and comes back if both do, and only then. -/
theorem bodies_sentAsTyped :
    (∀ texts, (desk.backtest path texts).AsksOnly Call.SubmitsWhole) ∧
      ∀ name symbols cash slippage live saveAs,
        (desk.config (.generate path name symbols (.ofTexts cash slippage live) saveAs)).AsksOnly
          (Call.GeneratesAsTyped cash slippage) :=
  ⟨desk.asksOnly_backtest path, desk.asksOnly_generate path⟩

/-- A desk with the standard settings, and with two services at some address. -/
def standard : Desk :=
  let url : WebUrl := ⟨false, "", "", .ipv4 0, none, [""], none, none⟩
  ⟨{}, ⟨url, url⟩, .plain⟩

/-- A document with two nodes, so that a config can be generated from it. -/
def twoNodes : String :=
  "\x7b\"nodes\": [\x7b\"id\": \"start\", \"type\": \"input\"\x7d, \x7b\"id\": \"logic-1\"\x7d]\x7d"

/-- A config can be generated from it, whatever else is given. -/
theorem exists_request_twoNodes (name : Option String) (symbols : String)
    (params : GenerateParams) : ∃ graph request, Graph.parse twoNodes = .ok graph ∧
      generateRequest graph (name.or (some graph.name)) symbols params = .ok request := by
  have two : (Graph.parse twoNodes).map (·.nodes.length) = .ok 2 := by decide +kernel
  cases parsed : Graph.parse twoNodes with
  | error why =>
      rw [parsed] at two
      cases two
  | ok graph =>
      rw [parsed] at two
      have length : graph.nodes.length = 2 := Except.ok.inj two
      have several : ¬graph.nodes.length ≤ 1 := by omega
      exact ⟨graph, _, rfl, if_neg several⟩

/-- Cash that is typed as a number is sent as one, and a slippage that is typed as infinite is not,
so that the request does not come back. -/
theorem bodies_sentAsTyped_endlessSlippage :
    let params : GenerateParams := .ofTexts (some " 2.5e4 ") (some "-Infinity") true
    ∃ graph request, Graph.parse twoNodes = .ok graph ∧
      generateRequest graph (some graph.name) "AAPL" params = .ok request ∧
      (toJson request).SaysNumber ["params", "starting_cash"] ∧
      ¬(toJson request).SaysNumber ["params", "slippage_bps"] ∧ ¬Wire.ComesBack request := by
  intro params
  obtain ⟨graph, request, parsed, made⟩ := exists_request_twoNodes none "AAPL" params
  have asks := (standard.bodies_sentAsTyped "s.json").2 none "AAPL" (some " 2.5e4 ")
    (some "-Infinity") true none
  have sent : request.SentAsTyped (some " 2.5e4 ") (some "-Infinity") :=
    standard.asksOnly_generate_imp "s.json" asks parsed made
  have finite : ReadsFinite (some " 2.5e4 ") := by decide +kernel
  have endless : ¬ReadsFinite (some "-Infinity") := by decide +kernel
  exact ⟨graph, request, parsed, made, sent.cash.mpr finite, endless ∘ sent.slippage.mp,
    fun back => endless (sent.comesBack.mp back).2⟩

/-- **A request for a config need not come back**: an infinite amount of cash is taken for a
number. -/
theorem generated_body_may_not_comeBack :
    ¬∀ (desk : Desk) (path : String) (cash : Option String),
      (desk.config (.generate path none "AAPL" (.ofTexts cash none false) none)).AsksOnly
        fun call => ∀ request, call = .graphToYaml request → Wire.ComesBack request := by
  intro whole
  obtain ⟨graph, request, parsed, made⟩ :=
    exists_request_twoNodes none "AAPL" (.ofTexts (some "inf") none false)
  have back : Wire.ComesBack request := standard.asksOnly_generate_imp "s.json"
    (whole standard "s.json" (some "inf")) parsed made request rfl
  have sent := sentAsTyped_generateRequest (Graph.isPlaced_of_parse parsed) made
  exact absurd (sent.comesBack.mp back).1 (by decide +kernel)

end Desk

end StrategyDesk
