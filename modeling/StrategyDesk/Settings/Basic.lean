import StrategyDesk.Error
import StrategyDesk.Json.Wire

/-!
# Client settings

Where the services are, how often they are polled, how long a request may take, and what the
backtest form starts with. Every setting has a default.

## Main Definitions

* `Endpoints`, `Polling`, `Timeouts`, `BacktestDefaults`
* `Settings` — all of them, and the log level
-/

namespace StrategyDesk

/-- Base URLs of the two services. -/
structure Endpoints where
  /-- Indicator catalog and code generation. -/
  compilerUrl : String := "http://127.0.0.1:8010"
  /-- Everything else. -/
  engineUrl : String := "http://127.0.0.1:8020"
deriving DecidableEq, Repr

/-- Periods and delays in milliseconds. -/
structure Polling where
  backtestMs : UInt64 := 1000
  gatewayJobMs : UInt64 := 3000
  statusMs : UInt64 := 5000
  /-- From a control action to the refresh of status and logs. -/
  refreshDelayMs : UInt64 := 1000
  /-- From the end of a launch script to the next look at the gateway. -/
  gatewayGraceMs : UInt64 := 2000
  /-- Lines asked for in one read of a log. -/
  logLines : UInt64 := 200
deriving DecidableEq, Repr

/-- Limits of requests in seconds. -/
structure Timeouts where
  readSecs : UInt64 := 5
  submitSecs : UInt64 := 10
  gatewayStartSecs : UInt64 := 15
  controlSecs : UInt64 := 30
  configSecs : UInt64 := 5
  createSecs : UInt64 := 10
  compileSecs : UInt64 := 30
deriving DecidableEq, Repr

/-- What the backtest form starts with. -/
structure BacktestDefaults where
  symbols : String := "AAPL"
  years : UInt32 := 2
  startingCash : Binary64 := .ofNat 10000
  slippageBps : Binary64 := .ofNat 5
deriving DecidableEq

/-- The client's settings. -/
structure Settings where
  logLevel : String := "info"
  endpoints : Endpoints := {}
  polling : Polling := {}
  timeouts : Timeouts := {}
  backtest : BacktestDefaults := {}
deriving DecidableEq

/-! ## Wire forms -/

instance : Wire Endpoints where
  toJson e := .record [always "compiler_url" e.compilerUrl, always "engine_url" e.engineUrl]
  ofJson? j := do
    let d : Endpoints := {}
    match ← j.slots? [["compiler_url"], ["engine_url"]] with
    | [compiler, engine] =>
      some { compilerUrl := ← compiler.orElse d.compilerUrl
             engineUrl := ← engine.orElse d.engineUrl }
    | _ => none

instance : Wire Polling where
  toJson p := .record [always "backtest_ms" p.backtestMs, always "gateway_job_ms" p.gatewayJobMs,
    always "status_ms" p.statusMs, always "refresh_delay_ms" p.refreshDelayMs,
    always "gateway_grace_ms" p.gatewayGraceMs, always "log_lines" p.logLines]
  ofJson? j := do
    let d : Polling := {}
    match ← j.slots? [["backtest_ms"], ["gateway_job_ms"], ["status_ms"], ["refresh_delay_ms"],
      ["gateway_grace_ms"], ["log_lines"]] with
    | [backtest, gateway, status, refresh, grace, lines] =>
      some { backtestMs := ← backtest.orElse d.backtestMs
             gatewayJobMs := ← gateway.orElse d.gatewayJobMs
             statusMs := ← status.orElse d.statusMs
             refreshDelayMs := ← refresh.orElse d.refreshDelayMs
             gatewayGraceMs := ← grace.orElse d.gatewayGraceMs
             logLines := ← lines.orElse d.logLines }
    | _ => none

instance : Wire Timeouts where
  toJson t := .record [always "read_secs" t.readSecs, always "submit_secs" t.submitSecs,
    always "gateway_start_secs" t.gatewayStartSecs, always "control_secs" t.controlSecs,
    always "config_secs" t.configSecs, always "create_secs" t.createSecs,
    always "compile_secs" t.compileSecs]
  ofJson? j := do
    let d : Timeouts := {}
    match ← j.slots? [["read_secs"], ["submit_secs"], ["gateway_start_secs"], ["control_secs"],
      ["config_secs"], ["create_secs"], ["compile_secs"]] with
    | [read, submit, gateway, control, config, create, compile] =>
      some { readSecs := ← read.orElse d.readSecs, submitSecs := ← submit.orElse d.submitSecs
             gatewayStartSecs := ← gateway.orElse d.gatewayStartSecs
             controlSecs := ← control.orElse d.controlSecs
             configSecs := ← config.orElse d.configSecs
             createSecs := ← create.orElse d.createSecs
             compileSecs := ← compile.orElse d.compileSecs }
    | _ => none

instance : Wire BacktestDefaults where
  toJson b := .record [always "symbols" b.symbols, always "years" b.years,
    always "starting_cash" b.startingCash, always "slippage_bps" b.slippageBps]
  ofJson? j := do
    let d : BacktestDefaults := {}
    match ← j.slots? [["symbols"], ["years"], ["starting_cash"], ["slippage_bps"]] with
    | [symbols, years, cash, slippage] =>
      some { symbols := ← symbols.orElse d.symbols, years := ← years.orElse d.years
             startingCash := ← cash.orElse d.startingCash
             slippageBps := ← slippage.orElse d.slippageBps }
    | _ => none

instance : Wire Settings where
  toJson s := .record [always "log_level" s.logLevel, always "endpoints" s.endpoints,
    always "polling" s.polling, always "timeouts" s.timeouts, always "backtest" s.backtest]
  ofJson? j := do
    let d : Settings := {}
    match ← j.slots? [["log_level"], ["endpoints"], ["polling"], ["timeouts"], ["backtest"]] with
    | [level, endpoints, polling, timeouts, backtest] =>
      some { logLevel := ← level.orElse d.logLevel, endpoints := ← endpoints.orElse {}
             polling := ← polling.orElse {}, timeouts := ← timeouts.orElse {}
             backtest := ← backtest.orElse {} }
    | _ => none

end StrategyDesk
