import StrategyDesk.Command.Parser
import StrategyDesk.Settings.File

/-!
# Runs

A run of the command line from its arguments to its exit code.

## Main Definitions

* `Surroundings` — what a run finds around it
* `loadSettings`, `writeSettings`
* `run`
-/

namespace StrategyDesk

/-- What a run finds around it. -/
structure Surroundings where
  /-- Addresses that win over those of the settings. -/
  engineUrl : Option String
  compilerUrl : Option String
  /-- The settings file of the person who runs it. -/
  userFile : Option String
  palette : Palette

/-- The name and the version. -/
def versionText : String := "alphastrat 0.1.0\n"

/-- How it is called. -/
def usageText : String :=
  "Usage: alphastrat [--config <FILE>] [--log <FILTER>] <COMMAND>\n\nCommands:\n"
    ++ "  graph, compile, backtest, status, logs, gateway, pipeline, configs, indicators, init\n"

/-! ## Before the session -/

/-- A text whose lines after the first stand under it. -/
def indented (text : String) : String :=
  "    " ++ "\n    ".intercalate (splitText '\n' text)

/-- Ends a run with an error. -/
def Program.abort (text : String) : Program Nat := do
  let _ : Unit ← perform (.warn s!"Error: {text}\n")
  return 1

/-- An error, and under it what caused it. -/
def causedBy (text : String) (cause : Error) : String :=
  text ++ "\n\nCaused by:\n" ++ indented cause.text

/-- The settings in a file, with the addresses of the environment. -/
def readSettings (around : Surroundings) (path : String) : Program (Except Error Settings) := do
  let read : Except FileFault String ← .perform (.readFile path)
  return do
    let text ← read.mapError fun why => .settings (.unreadableFile path why)
    return (← Settings.ofFileText text).override around.engineUrl around.compilerUrl

/-- The settings: those of the file given, of the working directory, of the person, or the
defaults. -/
def loadSettings (around : Surroundings) (given : Option String) :
    Program (Except Error Settings) := do
  match given with
  | some path => readSettings around path
  | none =>
    let isLocal : Bool ← .perform (.fileExists localSettingsFile)
    if isLocal then readSettings around localSettingsFile
    else
      let isUser : Bool ← match around.userFile with
        | some path => .perform (.fileExists path)
        | none => pure false
      if isUser then readSettings around (around.userFile.getD "")
      else return .ok (Settings.override around.engineUrl around.compilerUrl {})

/-- The directory part of a path. -/
def parentPath (path : String) : String :=
  let parts := (splitText '/' (dropTrailing '/' path)).dropLast
  "/".intercalate parts

/-- Writes a settings file, with comments or without. -/
def writeSettings (path : String) (commented : Bool) : Program (Except Error Unit) := do
  let faulty (why : SettingsFault) (plain : FileFault) : Error :=
    if commented then .file plain else .settings why
  match if commented then .ok settingsTemplate else Settings.fileText {} with
  | .error e => return .error e
  | .ok text =>
    let made : Except FileFault Unit ← .perform (.makeParents path)
    match made with
    | .error why => return .error (faulty (.noDirectory (parentPath path) why) why)
    | .ok _ =>
      let written : Except FileFault Unit ← .perform (.writeFile path text)
      return written.mapError fun why => faulty (.unwritableFile path why) why

/-- Carries out the command that writes a settings file. -/
def createSettings (path : String) (commented force : Bool) : Program Nat := do
  let taken : Bool ← .perform (.fileExists path)
  if taken && !force then
    Program.abort s!"File already exists: {path}. Use --force to overwrite."
  else
    match ← writeSettings path commented with
    | .error (.file why) => Program.abort why.text
    | .error e => Program.abort (Error.settings (.stated e.text)).text
    | .ok _ =>
      let kind := if commented then "commented configuration" else "configuration"
      let _ : Unit ← .perform (.say s!"Generated {kind} at: {path}\n")
      return 0

/-! ## The session -/

namespace Desk

/-- Carries out a command. -/
def carryOut (desk : Desk) : Command → Session Unit
  | .graph file command => Session.graphFile desk.palette desk.urls file command
  | .compile graph platform output => desk.compile graph platform output
  | .backtest graph texts => desk.backtest graph texts
  | .status watch => if watch then desk.watchStatus else desk.showStatus
  | .logs source lines follow =>
    let source := LogSource.ofText source
    let lines := lines.getD desk.settings.polling.logLines.toNat
    if follow then desk.followLogs source lines else desk.showLogs source lines
  | .runs => desk.showRuns
  | .control action => desk.control action
  | .config command => desk.config command
  | .indicators => desk.showIndicators
  | .init .. => pure ()

/-- Runs a session: a failure becomes the last notice, and all notices are printed. -/
def session (desk : Desk) (command : Command) : Program Nat := do
  let (outcome, notices) ← (desk.carryOut command).run.run .empty
  let (code, notices) ← match outcome with
    | .ok _ => pure (0, notices)
    | .error failure => do
      let now : Timestamp ← .perform .clock
      pure (1, (notices.push .error failure.message now).1)
  let lines := notices.items.map desk.palette.noticeLine
  let _ : Unit ← .perform (.warn (Program.lineText lines))
  return code

end Desk

/-- Runs a command with settings that are in order. -/
def runCommand (around : Surroundings) (invocation : Invocation) : Program Nat := do
  match invocation.command with
  | .init output commented force => createSettings output commented force
  | command =>
    match ← loadSettings around invocation.settingsFile with
    | .error e => Program.abort e.text
    | .ok settings =>
      let settings := { settings with logLevel := invocation.logFilter.getD settings.logLevel }
      match settings.validate, settings.endpoints.urls with
      | .error e, _ | _, .error e => Program.abort (causedBy "Invalid client configuration" e)
      | .ok _, .ok urls => Desk.session ⟨settings, urls, around.palette⟩ command

/-- A run: refused arguments end it with exit code 2. -/
def run (around : Surroundings) (arguments : List String) : Program Nat := do
  match Invocation.parse arguments with
  | .error .version =>
    let _ : Unit ← .perform (.say versionText)
    return 0
  | .error .help =>
    let _ : Unit ← .perform (.say usageText)
    return 0
  | .error .refused =>
    let _ : Unit ← .perform (.warn usageText)
    return 2
  | .ok invocation => runCommand around invocation

end StrategyDesk
