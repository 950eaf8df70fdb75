import StrategyDesk.Settings.Basic
import StrategyDesk.Toml.Printer
import StrategyDesk.Toml.Reader

/-!
# The settings file

Settings as a TOML document: every key is optional and stands for itself, and keys that are not
known are ignored.

## Main Definitions

* `Settings.toToml?`, `Settings.ofToml?` — the document of settings, and the settings of a document
* `Settings.ofFileText`, `Settings.fileText` — the same on texts
* `Settings.override` — the addresses given by the environment
* `settingsTemplate` — the file with every key explained

## Design Notes

A section may also be written as an array of its values in order. The settings of a document are
found key by key, so that a key that is missing changes nothing but its own setting.
-/

namespace StrategyDesk

/-! ## Values and sections -/

namespace Toml

def string? : Toml → Option String
  | string s => some s
  | _ => none

/-- A whole number below a bound. -/
def natBelow? (bound : Nat) : Toml → Option Nat
  | integer n => if 0 ≤ n ∧ n.toNat < bound then some n.toNat else none
  | _ => none

def word64? (t : Toml) : Option UInt64 := (t.natBelow? (wordSize 64)).map .ofNat

def word32? (t : Toml) : Option UInt32 := (t.natBelow? (wordSize 32)).map .ofNat

/-- A number, whole or not. -/
def binary64? : Toml → Option Binary64
  | decimal x => some x
  | integer n => some (.ofInt n)
  | _ => none

/-- The values that a section has for its keys, given in their order. -/
def slots? (keys : List String) : Toml → Option (List (Option Toml))
  | table _ entries => some (keys.map (Entries.get? entries))
  | array items | tables items => some ((items.map some ++ keys.map fun _ => none).take keys.length)
  | moment _ => some (keys.map fun _ => none)
  | _ => none

/-- The value of a key, or the default where it is missing. -/
def orDefault {α : Type} (read : Toml → Option α) (default : α) : Option Toml → Option α
  | none => some default
  | some value => read value

/-- A word as a whole number, if it has a form. -/
def ofWord? (n : UInt64) : Option Toml :=
  if n.toNat < wordSize 63 then some (integer n.toNat) else none

/-- A table opened by a header. -/
def ofEntries (entries : Entries) : Toml := table .header entries

end Toml

open Toml (orDefault ofWord? ofEntries)

namespace Endpoints

def toToml (e : Endpoints) : Toml :=
  ofEntries [("compiler_url", .string e.compilerUrl), ("engine_url", .string e.engineUrl)]

def ofToml? (t : Toml) : Option Endpoints := do
  let d : Endpoints := {}
  match ← t.slots? ["compiler_url", "engine_url"] with
  | [compiler, engine] =>
    some { compilerUrl := ← orDefault Toml.string? d.compilerUrl compiler
           engineUrl := ← orDefault Toml.string? d.engineUrl engine }
  | _ => none

end Endpoints

namespace Polling

def toToml? (p : Polling) : Option Toml := do
  some <| ofEntries [("backtest_ms", ← ofWord? p.backtestMs),
    ("gateway_job_ms", ← ofWord? p.gatewayJobMs), ("status_ms", ← ofWord? p.statusMs),
    ("refresh_delay_ms", ← ofWord? p.refreshDelayMs),
    ("gateway_grace_ms", ← ofWord? p.gatewayGraceMs), ("log_lines", ← ofWord? p.logLines)]

def ofToml? (t : Toml) : Option Polling := do
  let d : Polling := {}
  let word (default : UInt64) := orDefault Toml.word64? default
  match ← t.slots? ["backtest_ms", "gateway_job_ms", "status_ms", "refresh_delay_ms",
    "gateway_grace_ms", "log_lines"] with
  | [backtest, gateway, status, refresh, grace, lines] =>
    some { backtestMs := ← word d.backtestMs backtest, gatewayJobMs := ← word d.gatewayJobMs gateway
           statusMs := ← word d.statusMs status, refreshDelayMs := ← word d.refreshDelayMs refresh
           gatewayGraceMs := ← word d.gatewayGraceMs grace, logLines := ← word d.logLines lines }
  | _ => none

end Polling

namespace Timeouts

def toToml? (t : Timeouts) : Option Toml := do
  some <| ofEntries [("read_secs", ← ofWord? t.readSecs), ("submit_secs", ← ofWord? t.submitSecs),
    ("gateway_start_secs", ← ofWord? t.gatewayStartSecs),
    ("control_secs", ← ofWord? t.controlSecs), ("config_secs", ← ofWord? t.configSecs),
    ("create_secs", ← ofWord? t.createSecs), ("compile_secs", ← ofWord? t.compileSecs)]

def ofToml? (t : Toml) : Option Timeouts := do
  let d : Timeouts := {}
  let word (default : UInt64) := orDefault Toml.word64? default
  match ← t.slots? ["read_secs", "submit_secs", "gateway_start_secs", "control_secs",
    "config_secs", "create_secs", "compile_secs"] with
  | [read, submit, gateway, control, config, create, compile] =>
    some { readSecs := ← word d.readSecs read, submitSecs := ← word d.submitSecs submit
           gatewayStartSecs := ← word d.gatewayStartSecs gateway
           controlSecs := ← word d.controlSecs control, configSecs := ← word d.configSecs config
           createSecs := ← word d.createSecs create, compileSecs := ← word d.compileSecs compile }
  | _ => none

end Timeouts

namespace BacktestDefaults

def toToml (b : BacktestDefaults) : Toml :=
  ofEntries [("symbols", .string b.symbols), ("years", .integer b.years.toNat),
    ("starting_cash", .decimal b.startingCash), ("slippage_bps", .decimal b.slippageBps)]

def ofToml? (t : Toml) : Option BacktestDefaults := do
  let d : BacktestDefaults := {}
  match ← t.slots? ["symbols", "years", "starting_cash", "slippage_bps"] with
  | [symbols, years, cash, slippage] =>
    some { symbols := ← orDefault Toml.string? d.symbols symbols
           years := ← orDefault Toml.word32? d.years years
           startingCash := ← orDefault Toml.binary64? d.startingCash cash
           slippageBps := ← orDefault Toml.binary64? d.slippageBps slippage }
  | _ => none

end BacktestDefaults

/-! ## Settings -/

namespace Settings

/-- The document of settings; numbers beyond a signed word of 64 bits have no form in it. -/
def toToml? (s : Settings) : Option Toml.Entries := do
  some [("log_level", .string s.logLevel), ("endpoints", s.endpoints.toToml),
    ("polling", ← s.polling.toToml?), ("timeouts", ← s.timeouts.toToml?),
    ("backtest", s.backtest.toToml)]

/-- The settings of a document. -/
def ofToml? (entries : Toml.Entries) : Option Settings := do
  let d : Settings := {}
  some { logLevel := ← orDefault Toml.string? d.logLevel (entries.get? "log_level")
         endpoints := ← orDefault Endpoints.ofToml? d.endpoints (entries.get? "endpoints")
         polling := ← orDefault Polling.ofToml? d.polling (entries.get? "polling")
         timeouts := ← orDefault Timeouts.ofToml? d.timeouts (entries.get? "timeouts")
         backtest := ← orDefault BacktestDefaults.ofToml? d.backtest (entries.get? "backtest") }

/-- The settings with the addresses that the environment gives. -/
def override (engine compiler : Option String) (s : Settings) : Settings :=
  { s with endpoints := { engineUrl := engine.getD s.endpoints.engineUrl
                          compilerUrl := compiler.getD s.endpoints.compilerUrl } }

/-- The settings of a file's text. -/
def ofFileText (text : String) : Except Error Settings :=
  match (Toml.parse? text).bind ofToml? with
  | some s => .ok s
  | none => .error (.settings .unparsableFile)

/-- The text of the file that holds the settings. -/
def fileText (s : Settings) : Except Error String :=
  match s.toToml? with
  | some entries => .ok (Toml.print entries)
  | none => .error (.settings .unwritable)

/-- The sections agree as numbers and texts do: not-a-number agrees with nothing. -/
def agrees (a b : Settings) : Bool :=
  a.logLevel == b.logLevel && a.endpoints == b.endpoints && a.polling == b.polling
    && a.timeouts == b.timeouts && a.backtest.symbols == b.backtest.symbols
    && a.backtest.years == b.backtest.years
    && a.backtest.startingCash.beq b.backtest.startingCash
    && a.backtest.slippageBps.beq b.backtest.slippageBps

end Settings

/-- The settings file with the default of every key, each explained. -/
def settingsTemplate : String :=
  Toml.asLines [
    "# AlphaStrat client configuration",
    "# Every key is optional; missing keys fall back to the values shown here.",
    "# ALPHASTRAT_ENGINE_URL and ALPHASTRAT_COMPILER_URL override the endpoints,",
    "# ALPHASTRAT_LOG overrides log_level.",
    "",
    "# Log filter (tracing EnvFilter syntax, e.g. \"info\" or \"alphastrat=debug\")",
    "log_level = \"info\"",
    "",
    "[endpoints]",
    "# Compiler backend: indicator catalog and code generation",
    "compiler_url = \"http://127.0.0.1:8010\"",
    "",
    "# Engine: backtests, pipeline configs, gateway/pipeline control, status, logs",
    "engine_url = \"http://127.0.0.1:8020\"",
    "",
    "[polling]",
    "# Backtest progress poll interval (ms)",
    "backtest_ms = 1000",
    "",
    "# Gateway launch job poll interval (ms)",
    "gateway_job_ms = 3000",
    "",
    "# Service status and log tail poll interval (ms)",
    "status_ms = 5000",
    "",
    "# Delay after a control action before status and logs are refreshed (ms)",
    "refresh_delay_ms = 1000",
    "",
    "# Delay after the gateway script exits before liveness is re-checked (ms)",
    "gateway_grace_ms = 2000",
    "",
    "# Lines requested per log fetch",
    "log_lines = 200",
    "",
    "[timeouts]",
    "# Status, logs and job progress reads (s)",
    "read_secs = 5",
    "",
    "# Backtest submission (s)",
    "submit_secs = 10",
    "",
    "# Gateway start (s)",
    "gateway_start_secs = 15",
    "",
    "# Other control actions (s)",
    "control_secs = 30",
    "",
    "# Config list/load/save/delete (s)",
    "config_secs = 5",
    "",
    "# Config create (s)",
    "create_secs = 10",
    "",
    "# Compile and indicator catalog (s)",
    "compile_secs = 30",
    "",
    "[backtest]",
    "# Defaults for the backtest form",
    "symbols = \"AAPL\"",
    "years = 2",
    "starting_cash = 10000.0",
    "slippage_bps = 5.0"]

end StrategyDesk
