import StrategyDesk.Settings.Basic
import StrategyDesk.Url.Parser

/-!
# Valid settings

Which settings can be worked with.

## Main Definitions

* `parseBaseUrl` — the address of a service
* `Settings.validate` — the first thing that is wrong with settings
-/

namespace StrategyDesk

/-- The web address in a field, with blanks around it allowed. -/
def parseBaseUrl (field typed : String) : Except Error WebUrl :=
  match Address.parse (trim typed) with
  | .ok (.web url) => .ok url
  | .ok (.other scheme) => .error (.settings (.notHttp field scheme))
  | .error why => .error (.settings (.badUrl field typed why))

/-- The addresses of the two services. -/
structure ServiceUrls where
  compiler : WebUrl
  engine : WebUrl
deriving DecidableEq, Repr

/-- The addresses of the services; the compiler's is looked at first. -/
def Endpoints.urls (e : Endpoints) : Except Error ServiceUrls := do
  let compiler ← parseBaseUrl "compiler_url" e.compilerUrl
  let engine ← parseBaseUrl "engine_url" e.engineUrl
  return { compiler, engine }

namespace Timeouts

/-- All limits. -/
def all (t : Timeouts) : List UInt64 :=
  [t.readSecs, t.submitSecs, t.gatewayStartSecs, t.controlSecs, t.configSecs, t.createSecs,
    t.compileSecs]

end Timeouts

namespace Settings

/-- Reports a fault if a condition holds. -/
def failIf (condition : Bool) (why : SettingsFault) : Except Error Unit :=
  if condition then .error (.settings why) else .ok ()

/-- Accepts settings that can be worked with; of several faults the first is reported. -/
def validate (s : Settings) : Except Error Unit := do
  let _ ← s.endpoints.urls
  failIf ([s.polling.backtestMs, s.polling.gatewayJobMs, s.polling.statusMs].contains 0)
    .zeroPollInterval
  failIf (s.polling.logLines == 0) .zeroLogLines
  failIf (s.timeouts.all.contains 0) .zeroTimeout
  failIf (s.backtest.years == 0) .zeroYears
  failIf (s.backtest.startingCash.le (.zero false)) .nonPositiveCash

end Settings

end StrategyDesk
