import Mathlib.Data.List.Nodup
import StrategyDesk.Proofs.Session.Trials
import StrategyDesk.Session.Run

/-!
# Settings read from excerpts of their file

The file that settings are saved to holds every key.  Whichever of the keys are left in it, and
whatever becomes of the headers of its sections, each key that is left gives its setting and each
key that is missing the default, with no regard to the others.  The environment replaces addresses
and nothing else.

## Main Definitions

* `Settings.Key`, `Settings.Key.value` — the settings one by one, and their forms in a document
* `Settings.FitsSigned` — settings that can be saved
* `Settings.document` — the document of some keys
* `Settings.IsExcerpt` — a document that holds some of the keys of another one, in any order
* `Settings.mix` — settings and defaults, key by key

## Main Statements

* `Settings.toToml?_eq` — what is saved
* `Settings.isExcerpt_document` — keys can be left out of it, and sections without keys too
* `Settings.ofToml?_of_isExcerpt` — what is read from what is left
* `Settings.file_read_key_by_key` — the same of files, with the environment
-/

namespace StrategyDesk

/-- The value of a name in a section, if there is that section. -/
def Toml.held (table? : Option Toml) (name : String) : Option Toml :=
  match table? with
  | some (.table _ entries) => Toml.Entries.get? entries name
  | _ => none

namespace Settings

/-! ## Keys -/

/-- The sections of the file. -/
inductive Part where
  | endpoints
  | polling
  | timeouts
  | backtest
deriving DecidableEq

def Part.name : Part → String
  | endpoints => "endpoints"
  | polling => "polling"
  | timeouts => "timeouts"
  | backtest => "backtest"

/-- All sections in the order of the file. -/
def Part.all : List Part := [endpoints, polling, timeouts, backtest]

theorem Part.mem_all (part : Part) : part ∈ all := by cases part <;> decide

/-- A section is known by its name. -/
theorem Part.name_injective : Function.Injective Part.name := by
  intro part part' same
  cases part <;> cases part' <;> first | rfl | exact absurd same (by decide)

/-- The settings one by one. -/
inductive Key where
  | logLevel
  | compilerUrl | engineUrl
  | backtestMs | gatewayJobMs | statusMs | refreshDelayMs | gatewayGraceMs | logLines
  | readSecs | submitSecs | gatewayStartSecs | controlSecs | configSecs | createSecs | compileSecs
  | symbols | years | startingCash | slippageBps
deriving DecidableEq

namespace Key

/-- The section that a key stands in; the log level stands before all sections. -/
def part? : Key → Option Part
  | logLevel => none
  | compilerUrl | engineUrl => some .endpoints
  | backtestMs | gatewayJobMs | statusMs | refreshDelayMs | gatewayGraceMs | logLines =>
    some .polling
  | readSecs | submitSecs | gatewayStartSecs | controlSecs | configSecs | createSecs
  | compileSecs => some .timeouts
  | symbols | years | startingCash | slippageBps => some .backtest

def name : Key → String
  | logLevel => "log_level"
  | compilerUrl => "compiler_url"
  | engineUrl => "engine_url"
  | backtestMs => "backtest_ms"
  | gatewayJobMs => "gateway_job_ms"
  | statusMs => "status_ms"
  | refreshDelayMs => "refresh_delay_ms"
  | gatewayGraceMs => "gateway_grace_ms"
  | logLines => "log_lines"
  | readSecs => "read_secs"
  | submitSecs => "submit_secs"
  | gatewayStartSecs => "gateway_start_secs"
  | controlSecs => "control_secs"
  | configSecs => "config_secs"
  | createSecs => "create_secs"
  | compileSecs => "compile_secs"
  | symbols => "symbols"
  | years => "years"
  | startingCash => "starting_cash"
  | slippageBps => "slippage_bps"

/-- A setting in the form that it has in a document. -/
def value (s : Settings) : Key → Toml
  | logLevel => .string s.logLevel
  | compilerUrl => .string s.endpoints.compilerUrl
  | engineUrl => .string s.endpoints.engineUrl
  | backtestMs => .integer s.polling.backtestMs.toNat
  | gatewayJobMs => .integer s.polling.gatewayJobMs.toNat
  | statusMs => .integer s.polling.statusMs.toNat
  | refreshDelayMs => .integer s.polling.refreshDelayMs.toNat
  | gatewayGraceMs => .integer s.polling.gatewayGraceMs.toNat
  | logLines => .integer s.polling.logLines.toNat
  | readSecs => .integer s.timeouts.readSecs.toNat
  | submitSecs => .integer s.timeouts.submitSecs.toNat
  | gatewayStartSecs => .integer s.timeouts.gatewayStartSecs.toNat
  | controlSecs => .integer s.timeouts.controlSecs.toNat
  | configSecs => .integer s.timeouts.configSecs.toNat
  | createSecs => .integer s.timeouts.createSecs.toNat
  | compileSecs => .integer s.timeouts.compileSecs.toNat
  | symbols => .string s.backtest.symbols
  | years => .integer s.backtest.years.toNat
  | startingCash => .decimal s.backtest.startingCash
  | slippageBps => .decimal s.backtest.slippageBps

/-- What the environment puts in the place of a setting. -/
def given? (around : Surroundings) : Key → Option Toml
  | engineUrl => around.engineUrl.map .string
  | compilerUrl => around.compilerUrl.map .string
  | _ => none

/-- All keys in the order of the file. -/
def all : List Key :=
  [logLevel, compilerUrl, engineUrl, backtestMs, gatewayJobMs, statusMs, refreshDelayMs,
    gatewayGraceMs, logLines, readSecs, submitSecs, gatewayStartSecs, controlSecs, configSecs,
    createSecs, compileSecs, symbols, years, startingCash, slippageBps]

theorem mem_all (key : Key) : key ∈ all := by cases key <;> decide

theorem nodup_names : (all.map name).Nodup := by decide

/-- A key is known by its name. -/
theorem name_injective : Function.Injective name := fun key key' same =>
  List.inj_on_of_nodup_map nodup_names (mem_all key) (mem_all key') same

/-- The value of a key in a document. -/
def find? (doc : Toml.Entries) (key : Key) : Option Toml :=
  match key.part? with
  | none => doc.get? key.name
  | some part => Toml.held (doc.get? part.name) key.name

end Key

/-! ## Documents -/

/-- Words that a signed word of 64 bits can hold. -/
def FitsSigned (s : Settings) : Prop :=
  ∀ n ∈ [s.polling.backtestMs, s.polling.gatewayJobMs, s.polling.statusMs,
    s.polling.refreshDelayMs, s.polling.gatewayGraceMs, s.polling.logLines] ++ s.timeouts.all,
    n.toNat < wordSize 63

instance (s : Settings) : Decidable s.FitsSigned := List.decidableBAll _ _

/-- The keys that are kept of those in a section, or before all sections, with their values. -/
def entries (s : Settings) (keep : Key → Bool) (part? : Option Part) : Toml.Entries :=
  (Key.all.filter fun key => key.part? = part? ∧ keep key).map fun key => (key.name, key.value s)

/-- The document of some keys, with some sections. -/
def document (s : Settings) (keep : Key → Bool) (parts : List Part) : Toml.Entries :=
  s.entries keep none ++
    parts.map fun part : Part => (part.name, Toml.ofEntries (s.entries keep (some part)))

/-- The document of all keys. -/
def fullDocument (s : Settings) : Toml.Entries :=
  s.document (fun _ => true) Part.all

/-- A section may be missing, or be a table. -/
def IsPlain (table? : Option Toml) : Prop :=
  table? = none ∨ ∃ origin inner, table? = some (.table origin inner)

/-- A document holds some of the keys of another one, in any order, and its sections may be missing
or be written in any way. -/
structure IsExcerpt (keep : Key → Bool) (full doc : Toml.Entries) : Prop where
  parts : ∀ part : Part, IsPlain (doc.get? part.name)
  keys : ∀ key : Key, key.find? doc = if keep key then key.find? full else none

/-- Settings where some keys are kept and the others have their defaults. -/
def mix (s : Settings) (keep : Key → Bool) : Settings :=
  let d : Settings := {}
  let pick {α : Type} (key : Key) (kept default : α) : α := if keep key then kept else default
  { logLevel := pick .logLevel s.logLevel d.logLevel
    endpoints :=
      { compilerUrl := pick .compilerUrl s.endpoints.compilerUrl d.endpoints.compilerUrl
        engineUrl := pick .engineUrl s.endpoints.engineUrl d.endpoints.engineUrl }
    polling :=
      { backtestMs := pick .backtestMs s.polling.backtestMs d.polling.backtestMs
        gatewayJobMs := pick .gatewayJobMs s.polling.gatewayJobMs d.polling.gatewayJobMs
        statusMs := pick .statusMs s.polling.statusMs d.polling.statusMs
        refreshDelayMs := pick .refreshDelayMs s.polling.refreshDelayMs d.polling.refreshDelayMs
        gatewayGraceMs := pick .gatewayGraceMs s.polling.gatewayGraceMs d.polling.gatewayGraceMs
        logLines := pick .logLines s.polling.logLines d.polling.logLines }
    timeouts :=
      { readSecs := pick .readSecs s.timeouts.readSecs d.timeouts.readSecs
        submitSecs := pick .submitSecs s.timeouts.submitSecs d.timeouts.submitSecs
        gatewayStartSecs :=
          pick .gatewayStartSecs s.timeouts.gatewayStartSecs d.timeouts.gatewayStartSecs
        controlSecs := pick .controlSecs s.timeouts.controlSecs d.timeouts.controlSecs
        configSecs := pick .configSecs s.timeouts.configSecs d.timeouts.configSecs
        createSecs := pick .createSecs s.timeouts.createSecs d.timeouts.createSecs
        compileSecs := pick .compileSecs s.timeouts.compileSecs d.timeouts.compileSecs }
    backtest :=
      { symbols := pick .symbols s.backtest.symbols d.backtest.symbols
        years := pick .years s.backtest.years d.backtest.years
        startingCash := pick .startingCash s.backtest.startingCash d.backtest.startingCash
        slippageBps := pick .slippageBps s.backtest.slippageBps d.backtest.slippageBps } }

variable {s : Settings} {keep : Key → Bool} {parts : List Part}

/-- What a mixture holds. -/
theorem value_mix (s : Settings) (keep : Key → Bool) (key : Key) :
    key.value (s.mix keep) = key.value (if keep key then s else {}) := by
  cases kept : keep key with
  | false => cases key <;> simp only [Key.value, mix, kept, Bool.false_eq_true, if_false]
  | true => cases key <;> simp only [Key.value, mix, kept, if_true]

theorem mix_all (s : Settings) : s.mix (fun _ => true) = s := rfl

/-! ### Lookups -/

theorem get?_append (a b : Toml.Entries) (name : String) :
    Toml.Entries.get? (a ++ b) name = (a.get? name).or (b.get? name) := by
  unfold Toml.Entries.get?
  rw [List.find?_append, Option.map_or]

/-- Looking up the name of an item among the names of some. -/
theorem get?_map {ι : Type} [DecidableEq ι] {name : ι → String} (inj : Function.Injective name)
    (form : ι → Toml) (items : List ι) (item : ι) :
    Toml.Entries.get? (items.map fun item => (name item, form item)) (name item) =
      if item ∈ items then some (form item) else none := by
  induction items with
  | nil => rfl
  | cons first rest ih =>
      unfold Toml.Entries.get? at ih ⊢
      rw [List.map_cons, List.find?_cons]
      by_cases here : first = item
      · simp [here]
      · have apart : (name first == name item) = false :=
          beq_eq_false_iff_ne.mpr fun same => here (inj same)
        rw [apart]
        simp only [ih, List.mem_cons, Ne.symm here, false_or]

/-- Looking up a name that no item has. -/
theorem get?_map_of_ne {ι : Type} {name : ι → String} {other : String} (form : ι → Toml)
    (apart : ∀ item, name item ≠ other) (items : List ι) :
    Toml.Entries.get? (items.map fun item => (name item, form item)) other = none := by
  unfold Toml.Entries.get?
  rw [Option.map_eq_none_iff, List.find?_eq_none]
  intro entry member same
  obtain ⟨item, -, rfl⟩ := List.mem_map.mp member
  exact apart item (eq_of_beq same)

/-- The value of a key among those that are kept of a section. -/
theorem get?_entries (s : Settings) (keep : Key → Bool) (part? : Option Part) (key : Key) :
    (s.entries keep part?).get? key.name =
      if key.part? = part? ∧ keep key then some (key.value s) else none := by
  unfold entries
  rw [get?_map Key.name_injective]
  simp only [List.mem_filter, Key.mem_all, decide_eq_true_eq, true_and]

/-- No key has the name of a section. -/
theorem Key.name_ne_part (key : Key) (part : Part) : key.name ≠ part.name := by
  have apart : ∀ key ∈ Key.all, ∀ part ∈ Part.all, key.name ≠ part.name := by decide
  exact apart key (mem_all key) part (Part.mem_all part)

/-- The sections of a document. -/
theorem get?_document_part (s : Settings) (keep : Key → Bool) (parts : List Part) (part : Part) :
    (s.document keep parts).get? part.name =
      if part ∈ parts then some (Toml.ofEntries (s.entries keep (some part))) else none := by
  unfold document
  rw [get?_append, entries, get?_map_of_ne _ (·.name_ne_part part), Option.none_or,
    get?_map Part.name_injective]

/-- The keys of a document. -/
theorem find?_document (s : Settings) (keep : Key → Bool) (parts : List Part) (key : Key) :
    key.find? (s.document keep parts) =
      if keep key ∧ (∀ part, key.part? = some part → part ∈ parts) then some (key.value s)
      else none := by
  unfold Key.find?
  cases within : key.part? with
  | none =>
      show (document s keep parts).get? key.name = _
      unfold document
      rw [get?_append, get?_map_of_ne _ fun part => (key.name_ne_part part).symm, get?_entries,
        Option.or_none]
      simp [within]
  | some part =>
      show Toml.held ((document s keep parts).get? part.name) key.name = _
      rw [get?_document_part]
      by_cases there : part ∈ parts
      · rw [if_pos there]
        show (s.entries keep (some part)).get? key.name = _
        rw [get?_entries]
        simp [within, there]
      · rw [if_neg there]
        simp [there, Toml.held]

/-- The document of all keys has every key. -/
theorem find?_fullDocument (s : Settings) (key : Key) :
    key.find? s.fullDocument = some (key.value s) := by
  rw [fullDocument, find?_document]
  exact if_pos ⟨rfl, fun part _ => part.mem_all⟩

/-- **Keys can be left out of the document of settings**, and so can the headers of sections of
which no key is kept. -/
theorem isExcerpt_document
    (headed : ∀ key part, keep key = true → key.part? = some part → part ∈ parts) :
    IsExcerpt keep s.fullDocument (s.document keep parts) := by
  refine ⟨fun part => ?_, fun key => ?_⟩
  · rw [get?_document_part]
    split
    · exact Or.inr ⟨_, _, rfl⟩
    · exact Or.inl rfl
  · rw [find?_document, find?_fullDocument]
    refine if_congr ⟨And.left, fun kept => ⟨kept, fun part => headed key part kept⟩⟩ rfl rfl

/-! ## Writing -/

theorem ofWord?_eq {n : UInt64} (small : n.toNat < wordSize 63) :
    Toml.ofWord? n = some (.integer n.toNat) :=
  if_pos small

/-- **What settings are saved as**: the document of all keys. -/
theorem toToml?_eq (fits : s.FitsSigned) : s.toToml? = some s.fullDocument := by
  have small : ∀ n ∈ _, Toml.ofWord? n = some (.integer n.toNat) :=
    fun n member => ofWord?_eq (fits n member)
  simp only [Timeouts.all, List.cons_append, List.nil_append, List.forall_mem_cons] at small
  simp only [toToml?, Polling.toToml?, Timeouts.toToml?, small, Option.bind_eq_bind,
    Option.bind_some]
  rfl

/-! ## Reading -/

/-- A key that is kept is read, and one that is not gives the default. -/
theorem orDefault_if {α : Type} {read : Toml → Option α} {form : Toml} {value : α}
    (reads : read form = some value) (default : α) (kept : Bool) :
    Toml.orDefault read default (if kept then some form else none) =
      some (if kept then value else default) := by
  cases kept with
  | false => rfl
  | true => exact reads

theorem orDefault_string (text default : String) (kept : Bool) :
    Toml.orDefault Toml.string? default (if kept then some (.string text) else none) =
      some (if kept then text else default) := by
  have reads : Toml.string? (.string text) = some text := rfl
  exact orDefault_if reads default kept

theorem orDefault_binary64 (x default : Binary64) (kept : Bool) :
    Toml.orDefault Toml.binary64? default (if kept then some (.decimal x) else none) =
      some (if kept then x else default) := by
  have reads : Toml.binary64? (.decimal x) = some x := rfl
  exact orDefault_if reads default kept

theorem orDefault_word64 (n default : UInt64) (kept : Bool) :
    Toml.orDefault Toml.word64? default (if kept then some (.integer n.toNat) else none) =
      some (if kept then n else default) := by
  have small : n.toNat < wordSize 64 := n.toNat_lt
  have reads : Toml.word64? (.integer n.toNat) = some n := by
    simp [Toml.word64?, Toml.natBelow?, small]
  exact orDefault_if reads default kept

theorem orDefault_word32 (n default : UInt32) (kept : Bool) :
    Toml.orDefault Toml.word32? default (if kept then some (.integer n.toNat) else none) =
      some (if kept then n else default) := by
  have small : n.toNat < wordSize 32 := n.toNat_lt
  have reads : Toml.word32? (.integer n.toNat) = some n := by
    simp [Toml.word32?, Toml.natBelow?, small]
  exact orDefault_if reads default kept

/-- A section that is missing is read as one without keys. -/
theorem exists_table {α : Type} {read : Toml → Option α} {default : α}
    (empty : read (.ofEntries []) = some default) {table? : Option Toml}
    (plain : IsPlain table?) :
    ∃ (origin : Toml.Origin) (inner : Toml.Entries),
      Toml.orDefault read default table? = read (.table origin inner) ∧
        ∀ name, Toml.held table? name = inner.get? name := by
  rcases plain with rfl | ⟨origin, inner, rfl⟩
  · exact ⟨.header, [], empty.symm, fun _ => rfl⟩
  · exact ⟨origin, inner, rfl, fun _ => rfl⟩

section Sections

variable {table? : Option Toml}

/-- A section holds those of its keys that are kept. -/
def Holds (s : Settings) (keep : Key → Bool) (part : Part) (table? : Option Toml) : Prop :=
  ∀ key : Key, key.part? = some part →
    Toml.held table? key.name = if keep key then some (key.value s) else none

theorem endpoints_of_holds (plain : IsPlain table?) (holds : s.Holds keep .endpoints table?) :
    Toml.orDefault Endpoints.ofToml? {} table? = some (s.mix keep).endpoints := by
  have empty : Endpoints.ofToml? (.ofEntries []) = some ({} : Endpoints) := rfl
  obtain ⟨origin, inner, read, same⟩ := exists_table empty plain
  have compiler : inner.get? "compiler_url" = _ := (same _).symm.trans (holds .compilerUrl rfl)
  have engine : inner.get? "engine_url" = _ := (same _).symm.trans (holds .engineUrl rfl)
  rw [read]
  simp only [Endpoints.ofToml?, Toml.slots?, List.map_cons, List.map_nil, compiler, engine,
    Key.value, orDefault_string, Option.bind_eq_bind, Option.bind_some]
  rfl

theorem polling_of_holds (plain : IsPlain table?) (holds : s.Holds keep .polling table?) :
    Toml.orDefault Polling.ofToml? {} table? = some (s.mix keep).polling := by
  have empty : Polling.ofToml? (.ofEntries []) = some ({} : Polling) := rfl
  obtain ⟨origin, inner, read, same⟩ := exists_table empty plain
  have backtest : inner.get? "backtest_ms" = _ := (same _).symm.trans (holds .backtestMs rfl)
  have gateway : inner.get? "gateway_job_ms" = _ := (same _).symm.trans (holds .gatewayJobMs rfl)
  have status : inner.get? "status_ms" = _ := (same _).symm.trans (holds .statusMs rfl)
  have refresh : inner.get? "refresh_delay_ms" = _ :=
    (same _).symm.trans (holds .refreshDelayMs rfl)
  have grace : inner.get? "gateway_grace_ms" = _ :=
    (same _).symm.trans (holds .gatewayGraceMs rfl)
  have lines : inner.get? "log_lines" = _ := (same _).symm.trans (holds .logLines rfl)
  rw [read]
  simp only [Polling.ofToml?, Toml.slots?, List.map_cons, List.map_nil, backtest, gateway, status,
    refresh, grace, lines, Key.value, orDefault_word64, Option.bind_eq_bind, Option.bind_some]
  rfl

theorem timeouts_of_holds (plain : IsPlain table?) (holds : s.Holds keep .timeouts table?) :
    Toml.orDefault Timeouts.ofToml? {} table? = some (s.mix keep).timeouts := by
  have empty : Timeouts.ofToml? (.ofEntries []) = some ({} : Timeouts) := rfl
  obtain ⟨origin, inner, read, same⟩ := exists_table empty plain
  have reading : inner.get? "read_secs" = _ := (same _).symm.trans (holds .readSecs rfl)
  have submit : inner.get? "submit_secs" = _ := (same _).symm.trans (holds .submitSecs rfl)
  have gateway : inner.get? "gateway_start_secs" = _ :=
    (same _).symm.trans (holds .gatewayStartSecs rfl)
  have control : inner.get? "control_secs" = _ := (same _).symm.trans (holds .controlSecs rfl)
  have config : inner.get? "config_secs" = _ := (same _).symm.trans (holds .configSecs rfl)
  have create : inner.get? "create_secs" = _ := (same _).symm.trans (holds .createSecs rfl)
  have compile : inner.get? "compile_secs" = _ := (same _).symm.trans (holds .compileSecs rfl)
  rw [read]
  simp only [Timeouts.ofToml?, Toml.slots?, List.map_cons, List.map_nil, reading, submit, gateway,
    control, config, create, compile, Key.value, orDefault_word64, Option.bind_eq_bind,
    Option.bind_some]
  rfl

theorem backtest_of_holds (plain : IsPlain table?) (holds : s.Holds keep .backtest table?) :
    Toml.orDefault BacktestDefaults.ofToml? {} table? = some (s.mix keep).backtest := by
  have empty : BacktestDefaults.ofToml? (.ofEntries []) = some ({} : BacktestDefaults) := rfl
  obtain ⟨origin, inner, read, same⟩ := exists_table empty plain
  have symbols : inner.get? "symbols" = _ := (same _).symm.trans (holds .symbols rfl)
  have years : inner.get? "years" = _ := (same _).symm.trans (holds .years rfl)
  have cash : inner.get? "starting_cash" = _ := (same _).symm.trans (holds .startingCash rfl)
  have slippage : inner.get? "slippage_bps" = _ := (same _).symm.trans (holds .slippageBps rfl)
  rw [read]
  simp only [BacktestDefaults.ofToml?, Toml.slots?, List.map_cons, List.map_nil, symbols, years,
    cash, slippage, Key.value, orDefault_string, orDefault_word32, orDefault_binary64,
    Option.bind_eq_bind, Option.bind_some]
  rfl

end Sections

/-- **What is read from an excerpt**: the keys that were kept, and the defaults of the others. -/
theorem ofToml?_of_isExcerpt {doc : Toml.Entries}
    (excerpt : IsExcerpt keep s.fullDocument doc) : ofToml? doc = some (s.mix keep) := by
  have found (key : Key) : key.find? doc = if keep key then some (key.value s) else none := by
    rw [excerpt.keys, find?_fullDocument]
  have holds (part : Part) : s.Holds keep part (doc.get? part.name) := by
    intro key within
    have here := found key
    unfold Key.find? at here
    rw [within] at here
    exact here
  have level : doc.get? "log_level" = _ := found .logLevel
  have endpoints := endpoints_of_holds (excerpt.parts _) (holds .endpoints)
  have polling := polling_of_holds (excerpt.parts _) (holds .polling)
  have timeouts := timeouts_of_holds (excerpt.parts _) (holds .timeouts)
  have backtest := backtest_of_holds (excerpt.parts _) (holds .backtest)
  simp only [Part.name] at endpoints polling timeouts backtest
  simp only [ofToml?, level, endpoints, polling, timeouts, backtest, Key.value, orDefault_string,
    Option.bind_eq_bind, Option.bind_some]
  rfl

/-! ## Files -/

/-- Reading a settings file leaves everything as it is. -/
theorem carryOut_readSettings {around : Surroundings} {path text : String} {trial : Trial}
    {found : Settings} (held : trial.files.read path = .ok text)
    (read : ofFileText text = .ok found) :
    trial.carryOut (readSettings around path) =
      (trial, some (.ok (found.override around.engineUrl around.compilerUrl))) := by
  have step : trial.carryOut (readSettings around path) =
      (trial, some (do
        let text ← (trial.files.read path).mapError fun why => .settings (.unreadableFile path why)
        return (← ofFileText text).override around.engineUrl around.compilerUrl)) := rfl
  rw [step, held]
  show (trial, some (do return (← ofFileText text).override _ _)) = _
  rw [read]
  rfl

/-- The environment replaces the addresses that it gives, and nothing else. -/
theorem value_override (around : Surroundings) (s : Settings) (key : Key) :
    key.value (s.override around.engineUrl around.compilerUrl) =
      (key.given? around).getD (key.value s) := by
  cases key with
  | compilerUrl =>
      show Toml.string (around.compilerUrl.getD _) = (around.compilerUrl.map _).getD _
      cases around.compilerUrl <;> rfl
  | engineUrl =>
      show Toml.string (around.engineUrl.getD _) = (around.engineUrl.map _).getD _
      cases around.engineUrl <;> rfl
  | _ => rfl

/-- **The settings file is read key by key.**  What is saved is the document of all keys.  Of a file
whose text is read as an excerpt of that document, the keys that were kept give the settings that
were saved and the other keys the defaults, except for the addresses that the environment gives;
with all keys kept and no address given, the settings come back. -/
theorem file_read_key_by_key (fits : s.FitsSigned) :
    s.toToml? = some s.fullDocument ∧ s.fileText = .ok (Toml.print s.fullDocument) ∧
      (∀ (keep : Key → Bool) (parts : List Part),
        (∀ key part, keep key = true → key.part? = some part → part ∈ parts) →
        IsExcerpt keep s.fullDocument (s.document keep parts)) ∧
      ∀ (keep : Key → Bool) (doc : Toml.Entries), IsExcerpt keep s.fullDocument doc →
        ∀ text : String, Toml.parse? text = some doc →
          ∀ (around : Surroundings) (path : String) (trial : Trial),
            trial.files.read path = .ok text →
            ∃ found : Settings,
              trial.carryOut (readSettings around path) = (trial, some (.ok found)) ∧
              (∀ key : Key, key.value found =
                (key.given? around).getD (key.value (if keep key then s else {}))) ∧
              ((∀ key, keep key = true) → around.engineUrl = none → around.compilerUrl = none →
                found = s) := by
  refine ⟨toToml?_eq fits, ?_, fun keep parts headed => isExcerpt_document headed, ?_⟩
  · unfold fileText
    rw [toToml?_eq fits]
  · intro keep doc excerpt text parsed around path trial held
    have read : ofFileText text = .ok (s.mix keep) := by
      unfold ofFileText
      rw [parsed, Option.bind_some, ofToml?_of_isExcerpt excerpt]
    refine ⟨_, carryOut_readSettings held read, fun key => ?_, fun all engine compiler => ?_⟩
    · rw [value_override, value_mix]
    · rw [funext all, mix_all, engine, compiler]
      rfl

/-- The document has the interval of the status in one section, the address of the engine in another
one, and a third section without keys.  Documents have no decidable equality, so one that is read is
matched with this form. -/
def isIntervalAndAddress (interval : Int) (address : String) : Option Toml.Entries → Bool
  | some [(polling, .table .header [(statusMs, .integer ms)]),
      (endpoints, .table .header [(engineUrl, .string url)]), (timeouts, .table .header [])] =>
    [polling, statusMs, endpoints, engineUrl, timeouts] ==
      ["polling", "status_ms", "endpoints", "engine_url", "timeouts"] && ms == interval &&
      url == address
  | _ => false

theorem eq_some_of_isIntervalAndAddress {interval : Int} {address : String}
    {found : Option Toml.Entries} (meant : isIntervalAndAddress interval address found = true) :
    found = some [("polling", .table .header [("status_ms", .integer interval)]),
      ("endpoints", .table .header [("engine_url", .string address)]),
      ("timeouts", .table .header [])] := by
  unfold isIntervalAndAddress at meant
  split at meant
  · simp only [Bool.and_eq_true, beq_iff_eq, List.cons.injEq] at meant
    obtain ⟨⟨⟨rfl, rfl, rfl, rfl, rfl, -⟩, rfl⟩, rfl⟩ := meant
    rfl
  · cases meant

/-- An address with quotes, a backslash and a line end comes back from a file that kept it, while
the years that were left out are those of the defaults and the other address is given by the
environment. -/
theorem file_read_key_by_key_quotedAddress :
    let s : Settings :=
      { endpoints := { engineUrl := "http://a\\b\n\"c\"" }, polling := { statusMs := 750 }
        backtest := { years := 7 } }
    let keep : Key → Bool := fun key => key == .engineUrl || key == .statusMs
    let text := Toml.print (s.document keep [.polling, .endpoints, .timeouts])
    let around : Surroundings := ⟨none, some "http://there", none, .plain⟩
    let trial : Trial :=
      ⟨.ofFiles [("desk.toml", text)], fun _ => none, [], [], none, [], "", "", ⟨0, 0⟩⟩
    ∃ found : Settings,
      trial.carryOut (readSettings around "desk.toml") = (trial, some (.ok found)) ∧
      Key.engineUrl.value found = .string "http://a\\b\n\"c\"" ∧
      Key.statusMs.value found = .integer 750 ∧ Key.years.value found = .integer 2 ∧
      Key.compilerUrl.value found = .string "http://there" := by
  intro s keep text around trial
  have fits : s.FitsSigned := by decide
  obtain ⟨-, -, excerpts, reads⟩ := file_read_key_by_key fits
  have excerpt := excerpts keep [.polling, .endpoints, .timeouts] <| by
    intro key part kept within
    have one : key = .engineUrl ∨ key = .statusMs := by simpa [keep] using kept
    rcases one with rfl | rfl
    · exact Option.some.inj within ▸ by decide
    · exact Option.some.inj within ▸ by decide
  have meant : Toml.parse? text = some (s.document keep [.polling, .endpoints, .timeouts]) :=
    eq_some_of_isIntervalAndAddress (by decide +kernel)
  obtain ⟨found, read, values, -⟩ :=
    reads keep _ excerpt text meant around "desk.toml" trial (by decide +kernel)
  exact ⟨found, read, values .engineUrl, values .statusMs, values .years, values .compilerUrl⟩

end Settings

end StrategyDesk
