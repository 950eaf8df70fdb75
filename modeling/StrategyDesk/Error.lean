import StrategyDesk.Json.Fault
import StrategyDesk.Text.Blank
import StrategyDesk.Url.Fault

/-!
# Errors

Everything that can go wrong, as causes, with the two wordings of each: the full text, and the
short one that people are shown.

## Main Definitions

* `Refusal` — why an input is turned down before anything is sent
* `SettingsFault` — what is wrong with the client's settings
* `FileFault` — why a file could not be read or written
* `Error` — all errors; `Error.text` is the full wording, `Error.message` the short one
-/

namespace StrategyDesk

/-- Why a file could not be read or written. -/
inductive FileFault where
  | notFound
  | alreadyExists
  | notADirectory
  | isADirectory
  /-- The bytes of the file are not text. -/
  | notText
  | stated (text : String)
deriving DecidableEq, Repr

def FileFault.text : FileFault → String
  | notFound => "No such file or directory (os error 2)"
  | alreadyExists => "File exists (os error 17)"
  | notADirectory => "Not a directory (os error 20)"
  | isADirectory => "Is a directory (os error 21)"
  | notText => "stream did not contain valid UTF-8"
  | stated text => text

/-- Why an input is turned down before anything is sent. -/
inductive Refusal where
  | noSymbols
  | badYears (typed : String)
  | notANumber (field typed : String)
  | backtestRunning
  | noConfigSelected
  | unnamedConfig
  | badYaml
  | emptyCanvas
  | unknownPlatform (name : String)
  /-- A refusal in words of its own. -/
  | stated (text : String)
deriving DecidableEq, Repr

def Refusal.text : Refusal → String
  | noSymbols => "Enter at least one symbol"
  | badYears typed => s!"Years must be a positive whole number, got '{typed}'"
  | notANumber field typed => s!"{field} must be a number, got '{typed}'"
  | backtestRunning => "A backtest is already running"
  | noConfigSelected => "Select a config first"
  | unnamedConfig => "Config name cannot be empty"
  | badYaml => "Invalid YAML: the text is not one YAML document"
  | emptyCanvas => "Build a strategy on the canvas first"
  | unknownPlatform name => s!"Unsupported platform: {name}"
  | stated text => text

/-- A path between quotes, with quotes, backslashes and line ends escaped. -/
def quotedPath (path : String) : String :=
  let escape (c : Char) : List Char :=
    if c = '"' then ['\\', '"']
    else if c = '\\' then ['\\', '\\']
    else if c = '\n' then ['\\', 'n']
    else if c = '\r' then ['\\', 'r']
    else if c = '\t' then ['\\', 't']
    else [c]
  String.ofList ('"' :: path.toList.flatMap escape ++ ['"'])

/-- What is wrong with the client's settings. -/
inductive SettingsFault where
  | unreadableFile (path : String) (why : FileFault)
  | unparsableFile
  /-- Some value has no form in the file. -/
  | unwritable
  | unwritableFile (path : String) (why : FileFault)
  | noDirectory (path : String) (why : FileFault)
  | badUrl (field typed : String) (why : UrlFault)
  | notHttp (field scheme : String)
  | zeroPollInterval
  | zeroLogLines
  | zeroTimeout
  | zeroYears
  | nonPositiveCash
  | stated (text : String)
deriving DecidableEq, Repr

def SettingsFault.text : SettingsFault → String
  | unreadableFile path why =>
    s!"Failed to read config file {quotedPath path}: {why.text}"
  | unparsableFile => "Failed to parse config file: the text is not a settings document"
  | unwritable => "Failed to serialize config: a number is out of range"
  | unwritableFile path why =>
    s!"Failed to write config file {quotedPath path}: {why.text}"
  | noDirectory path why => s!"Failed to create directory {quotedPath path}: {why.text}"
  | badUrl field typed why => s!"Invalid {field} '{typed}': {why.message}"
  | notHttp field scheme => s!"{field} must use http or https, got '{scheme}'"
  | zeroPollInterval => "Poll intervals must be > 0"
  | zeroLogLines => "polling.log_lines must be > 0"
  | zeroTimeout => "Request timeouts must be > 0"
  | zeroYears => "backtest.years must be > 0"
  | nonPositiveCash => "backtest.starting_cash must be > 0"
  | stated text => text

/-- Everything that can go wrong. -/
inductive Error where
  | refused (why : Refusal)
  /-- A service could not be reached, or its reply could not be read. -/
  | transport (text : String)
  /-- A service answered with an error status. -/
  | remote (status : Nat) (detail : Option String)
  | conflict (text : String)
  | jobFailed (text : String)
  /-- The reply to a submission names no job; `body` is that reply. -/
  | missingJobId (body : String)
  | importFailed (text : String)
  | settings (why : SettingsFault)
  | file (why : FileFault)
  /-- A JSON text is malformed or has the wrong form. -/
  | badJson (fault : JsonFault)
  | badYaml
  | badToml
  /-- Some value has no TOML form. -/
  | noToml
deriving DecidableEq

namespace Error

/-- Stands for an error that says nothing. -/
def unknown : String := "Unknown error"

/-- The reply of a service could not be read. -/
def undecodable (fault : JsonFault) : Error :=
  .transport s!"error decoding response body: {fault.text}"

/-- No service answers at the address. -/
def unreachable : Error := .transport "error sending request"

/-- A text that is no strategy document. -/
def notADocument : Error := .importFailed "Invalid JSON: the text is not a strategy document"

/-- The full wording. -/
def text : Error → String
  | refused why => s!"Validation error: {why.text}"
  | transport text => s!"Transport error: {text}"
  | remote status detail => s!"Remote error (HTTP {status}): {detail.getD unknown}"
  | conflict text => s!"Conflict: {text}"
  | jobFailed text => s!"Job failed: {text}"
  | missingJobId body => s!"No job id in response: {body}"
  | importFailed text => s!"Import error: {text}"
  | settings why => s!"Configuration error: {why.text}"
  | file why => s!"I/O error: {why.text}"
  | badJson fault => s!"JSON error: {fault.text}"
  | badYaml => "YAML error: the text has not the expected form"
  | badToml => "TOML error: the text has not the expected form"
  | noToml => "TOML serialization error: a value has no form"

/-- A text, or the stand-in when it is empty. -/
def orUnknown (text : String) : String := if text = "" then unknown else text

/-- The short wording that people are shown: a server's own detail when it says something, and
the cause without the kind of error before it. -/
def message : Error → String
  | remote status detail =>
    match detail with
    | some detail => if isBlankText detail then s!"Request failed with status {status}" else detail
    | none => s!"Request failed with status {status}"
  | transport text => orUnknown text
  | refused why => orUnknown why.text
  | conflict text => orUnknown text
  | jobFailed text => orUnknown text
  | importFailed text => orUnknown text
  | settings why => orUnknown why.text
  | e => e.text

/-- A failure that a later attempt may not meet again. -/
def isTransient : Error → Bool
  | transport _ | remote .. | badJson _ => true
  | _ => false

end Error

end StrategyDesk
