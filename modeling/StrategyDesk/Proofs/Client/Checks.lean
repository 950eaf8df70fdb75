import StrategyDesk.Configs.Store
import StrategyDesk.Gateway.Controller
import StrategyDesk.Proofs.Text.Blanks

/-!
# What is checked before it is sent

Each kind of request has conditions that are checked on the client, of the very values that the
request carries.  Conversations about stored configs begin with their check: one that is refused
makes no call.

## Main Definitions

* `BacktestRequest.IsUsable` — what a parsed form makes sure of
* `Call.IsChecked` — what holds of every request that is sent
* `ConfigTask`, `ConfigTask.talk` — the conversations about stored configs, each with its calls and
  the error that it ends with
* `Talk.Sound` — a conversation makes checked calls, and none where it is refused

## Main Statements

* `BacktestForm.isUsable_of_parse` — a submission that was made from a form is usable
* `ConfigTask.sound_talk` — every conversation about stored configs is sound
-/

namespace StrategyDesk

/-! ## Checked requests -/

/-- There is something to be backtested. -/
structure BacktestRequest.IsUsable (request : BacktestRequest) : Prop where
  symbols_ne_nil : request.symbols ≠ []
  symbols : ∀ symbol ∈ request.symbols, symbol ≠ ""
  years : 1 ≤ request.years
  cash : request.startingCash.isFinite = true
  slippage : request.slippageBps.isFinite = true

/-- The submission was made from a form that was filled in for some strategy. -/
def BacktestRequest.IsFromForm (request : BacktestRequest) : Prop :=
  ∃ (form : BacktestForm) (params : BacktestParams) (graph : Graph),
    form.parse = .ok params ∧ request = params.request graph

/-- What holds of a request before it is sent. -/
def Call.IsChecked : Call → Prop
  | submitBacktest request => request.IsFromForm → request.IsUsable
  | pipelineStart request => isBlankText request.config = false
  | createConfig config => trim config.name = config.name ∧ config.name ≠ ""
  | updateConfig _ yaml => isYamlDocument yaml = true
  | graphToYaml request =>
    2 ≤ request.nodes.length ∧ trim request.name = request.name ∧ request.name ≠ ""
  | indicators | compile .. | backtestProgress _ | status | logs .. | logRuns | gatewayStart
  | gatewayStop | gatewayLogin | gatewayJob _ | pipelineStop | listConfigs | getConfig _
  | deleteConfig _ => True

/-! ## Forms -/

theorem parseWord?_lt {bound n : Nat} {text : List Char} (read : parseWord? bound text = some n) :
    n < bound := by
  unfold parseWord? at read
  extract_lets digits value at read
  by_cases below : value < bound
  · split at read
    · exact Option.some.inj read ▸ below
    · cases read
  · rw [if_neg below, ite_self] at read
    cases read

namespace BacktestForm

theorem parseYears_eq_ok {typed : String} {years : UInt32} (parsed : parseYears typed = .ok years) :
    1 ≤ years := by
  unfold parseYears at parsed
  split at parsed
  · next n read =>
    split at parsed
    · next positive =>
      obtain rfl := Except.ok.inj parsed
      have below : n < 2 ^ 32 := parseWord?_lt read
      rw [UInt32.le_iff_toNat_le, UInt32.toNat_ofNat_of_lt' below]
      exact positive
    · cases parsed
  · cases parsed

theorem parseNumber_eq_ok {field typed : String} {x : Binary64}
    (parsed : parseNumber field typed = .ok x) : x.isFinite = true := by
  unfold parseNumber at parsed
  split at parsed
  · split at parsed
    · next finite => exact Except.ok.inj parsed ▸ finite
    · cases parsed
  · cases parsed

/-- What comes of steps that may fail comes of the first one. -/
theorem bind_eq_ok {α β : Type} {first : Except Error α} {next : α → Except Error β} {b : β} :
    (first >>= next) = .ok b ↔ ∃ a, first = .ok a ∧ next a = .ok b := by
  cases first with
  | error why => exact ⟨nofun, fun ⟨_, made, _⟩ => nomatch made⟩
  | ok a =>
      refine ⟨fun later => ⟨a, rfl, later⟩, fun ⟨a', same, later⟩ => ?_⟩
      obtain rfl := Except.ok.inj same
      exact later

/-- The parameters that a form stands for. -/
theorem parse_eq_ok {form : BacktestForm} {params : BacktestParams}
    (parsed : form.parse = .ok params) :
    parseSymbols form.symbols ≠ [] ∧ params.symbols = parseSymbols form.symbols ∧
      parseYears form.years = .ok params.years ∧
      parseNumber "Starting cash" form.startingCash = .ok params.startingCash ∧
      parseNumber "Slippage (bps)" form.slippageBps = .ok params.slippageBps := by
  unfold parse at parsed
  dsimp only at parsed
  split at parsed
  · cases parsed
  · next named =>
    obtain ⟨years, hyears, parsed⟩ := bind_eq_ok.mp parsed
    obtain ⟨cash, hcash, parsed⟩ := bind_eq_ok.mp parsed
    obtain ⟨slippage, hslippage, parsed⟩ := bind_eq_ok.mp parsed
    obtain rfl := Except.ok.inj parsed
    exact ⟨fun none => named (List.isEmpty_iff.mpr none), rfl, hyears, hcash, hslippage⟩

/-- **A submission that was made from a form is usable.** -/
theorem isUsable_of_parse {form : BacktestForm} {params : BacktestParams}
    (parsed : form.parse = .ok params) (graph : Graph) : (params.request graph).IsUsable := by
  obtain ⟨named, symbols, years, cash, slippage⟩ := parse_eq_ok parsed
  refine ⟨?_, ?_, parseYears_eq_ok years, parseNumber_eq_ok cash, parseNumber_eq_ok slippage⟩
  · show params.symbols ≠ []
    rw [symbols]
    exact named
  · intro symbol member
    change symbol ∈ params.symbols at member
    rw [symbols] at member
    simpa using (List.mem_filter.mp member).2

end BacktestForm

/-! ## Conversations about stored configs -/

/-- The error of a result, if it is one. -/
def failure? {α : Type} : Except Error α → Option Error
  | .ok _ => none
  | .error why => some why

/-- A reply that is no refusal: the services refuse nothing, only the client does. -/
def Unrefused {α : Type} (reply : Except Error α) : Prop := ∀ why, reply ≠ .error (.refused why)

/-- What a client has to do with stored configs. -/
inductive ConfigTask where
  | save (name yaml : String)
  | create (name : String) (yaml : Option String)
  | generate (graph : Graph) (name : Option String) (symbols : String) (params : GenerateParams)

/-- The calls of a conversation, and the error that it ends with, if it does. -/
structure Talk where
  calls : List Call
  error : Option Error

/-- A conversation that makes checked calls, and none where it is refused.  A stored config is
loaded only after it was created, under the same name. -/
structure Talk.Sound (talk : Talk) : Prop where
  refused : ∀ why, talk.error = some (.refused why) → talk.calls = []
  checked : ∀ call ∈ talk.calls, call.IsChecked
  loaded : ∀ name, .getConfig name ∈ talk.calls →
    ∃ yaml, talk.calls = [.createConfig ⟨name, yaml⟩, .getConfig name]

theorem failure?_ne_refused {α : Type} {result : Except Error α} (unrefused : Unrefused result)
    (why : Refusal) : failure? result ≠ some (.refused why) := by
  cases result with
  | ok a => exact nofun
  | error e =>
      intro same
      exact unrefused why (congrArg Except.error (Option.some.inj same))

namespace Talk

/-- A conversation that makes no call is sound. -/
theorem sound_nil (error : Option Error) : (Talk.mk [] error).Sound where
  refused _ _ := rfl
  checked _ member := absurd member List.not_mem_nil
  loaded _ member := absurd member List.not_mem_nil

/-- A conversation of one checked call that loads nothing is sound. -/
theorem sound_singleton {α : Type} {call : Call} {reply : Except Error α}
    (unrefused : Unrefused reply) (checked : call.IsChecked)
    (loadsNone : ∀ name, call ≠ .getConfig name) : (Talk.mk [call] (failure? reply)).Sound where
  refused why refused := absurd refused (failure?_ne_refused unrefused why)
  checked _ member := List.mem_singleton.mp member ▸ checked
  loaded name member := absurd (List.mem_singleton.mp member).symm (loadsNone name)

/-- A conversation that creates a config and loads it is sound. -/
theorem sound_creation {α : Type} {config : NewConfig} {reply : Except Error α}
    (unrefused : Unrefused reply) (checked : (Call.createConfig config).IsChecked) :
    (Talk.mk [.createConfig config, .getConfig config.name] (failure? reply)).Sound where
  refused why refused := absurd refused (failure?_ne_refused unrefused why)
  checked made member := by
    rcases List.mem_cons.mp member with rfl | member
    · exact checked
    · rw [List.mem_singleton.mp member]
      trivial
  loaded name member := by
    rcases List.mem_cons.mp member with same | member
    · cases same
    · cases List.mem_singleton.mp member
      exact ⟨config.yaml, rfl⟩

end Talk

namespace ConfigTask

/-- How a task goes when every call is replied to by a function. -/
def talk (reply : (call : Call) → Reply call) : ConfigTask → Talk
  | save name yaml =>
    let (calls, result) := (saveConfig name yaml).trace reply
    ⟨calls, failure? result⟩
  | create name yaml =>
    let (calls, result) := (createConfig name yaml).trace reply
    ⟨calls, failure? result⟩
  | generate graph name symbols params =>
    let (calls, result) := (generateConfig graph name symbols params).trace reply
    ⟨calls, failure? result⟩

variable {reply : (call : Call) → Reply call}

theorem sound_save (unrefused : ∀ call, Unrefused (reply call)) (name yaml : String) :
    ((save name yaml).talk reply).Sound := by
  by_cases document : isYamlDocument yaml = true
  · have talk : (save name yaml).talk reply =
        ⟨[.updateConfig name yaml], failure? (reply (.updateConfig name yaml))⟩ := by
      simp only [ConfigTask.talk, saveConfig, document]
      rfl
    rw [talk]
    exact Talk.sound_singleton (unrefused _) document nofun
  · have talk : (save name yaml).talk reply = ⟨[], some (.refused .badYaml)⟩ := by
      simp only [ConfigTask.talk, saveConfig, document, Bool.false_eq_true]
      rfl
    rw [talk]
    exact Talk.sound_nil _

/-- What a creation makes of an error of the service is no refusal. -/
theorem unrefused_creationError {e : Error} (unrefused : Unrefused (.error e : Except Error Unit))
    (name : String) :
    Unrefused (.error (creationError name e) : Except Error ConfigDetail) := by
  intro why same
  unfold creationError at same
  split at same
  · cases same
  · cases same
  · obtain rfl := Except.error.inj same
    exact unrefused why rfl

theorem sound_create (unrefused : ∀ call, Unrefused (reply call)) (name : String)
    (yaml : Option String) : ((create name yaml).talk reply).Sound := by
  by_cases unnamed : trim name = ""
  · have talk : (create name yaml).talk reply = ⟨[], some (.refused .unnamedConfig)⟩ := by
      simp only [ConfigTask.talk, createConfig, unnamed, if_true]
      rfl
    rw [talk]
    exact Talk.sound_nil _
  · have checked : (Call.createConfig ⟨trim name, yaml.getD configTemplate⟩).IsChecked :=
      ⟨trim_trim name, unnamed⟩
    cases created : reply (.createConfig ⟨trim name, yaml.getD configTemplate⟩) with
    | error e =>
        have talk : (create name yaml).talk reply =
            ⟨[.createConfig ⟨trim name, yaml.getD configTemplate⟩],
              some (creationError (trim name) e)⟩ := by
          simp only [ConfigTask.talk, createConfig, unnamed, if_false, bind, Dialogue.bind,
            Dialogue.question, Dialogue.trace, created]
          rfl
        have told := unrefused_creationError (created ▸ unrefused _) (trim name)
        rw [talk]
        exact Talk.sound_singleton told checked nofun
    | ok done =>
        have talk : (create name yaml).talk reply =
            ⟨[.createConfig ⟨trim name, yaml.getD configTemplate⟩, .getConfig (trim name)],
              failure? (reply (.getConfig (trim name)))⟩ := by
          simp only [ConfigTask.talk, createConfig, unnamed, if_false, bind, Dialogue.bind,
            Dialogue.question, Dialogue.trace, created]
          rfl
        rw [talk]
        exact Talk.sound_creation (unrefused _) checked

/-- The name of a generated config is a trimmed one, or the one that stands in for it. -/
theorem trim_generatedName (name : Option String) :
    let given := ((name.map trim).filter (· != "")).getD generatedName
    trim given = given ∧ given ≠ "" := by
  intro given
  cases kept : (name.map trim).filter (· != "") with
  | none =>
      have stands : given = generatedName := by simp only [given, kept, Option.getD_none]
      rw [stands]
      decide
  | some text =>
      have taken : given = text := by simp only [given, kept, Option.getD_some]
      obtain ⟨trimmed, some⟩ := Option.filter_eq_some_iff.mp kept
      obtain ⟨typed, -, rfl⟩ := Option.map_eq_some_iff.mp trimmed
      rw [taken]
      exact ⟨trim_trim typed, by simpa using some⟩

theorem sound_generate (unrefused : ∀ call, Unrefused (reply call)) (graph : Graph)
    (name : Option String) (symbols : String) (params : GenerateParams) :
    ((generate graph name symbols params).talk reply).Sound := by
  unfold ConfigTask.talk generateConfig generateRequest
  by_cases small : graph.nodes.length ≤ 1
  · simp only [if_pos small]
    exact Talk.sound_nil _
  · simp only [if_neg small]
    refine Talk.sound_singleton (unrefused _) ⟨?_, trim_generatedName name⟩ nofun
    show 2 ≤ (graph.nodes.map Node.normalize).length
    rw [List.length_map]
    omega

/-- **Every conversation about stored configs is sound.** -/
theorem sound_talk (unrefused : ∀ call, Unrefused (reply call)) (task : ConfigTask) :
    (task.talk reply).Sound := by
  cases task with
  | save name yaml => exact sound_save unrefused name yaml
  | create name yaml => exact sound_create unrefused name yaml
  | generate graph name symbols params => exact sound_generate unrefused graph name symbols params

end ConfigTask

end StrategyDesk
