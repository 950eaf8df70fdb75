/-!
# Arguments

The grammar of command lines: options by a dash and a letter or by two dashes and a name, with or
without a value, flags in one cluster, and everything else by position.

## Main Definitions

* `OptionSpec`, `Level` — what may be given at one level of a command line
* `Given` — what was given
* `Level.scan` — reads the arguments of a level up to the name of the next one

## Design Notes

An option that takes a value takes the next argument unless that looks like an option. Nothing may
be given twice at one level. After two dashes alone all arguments count by position.
-/

namespace StrategyDesk

/-- An option of a level. -/
structure OptionSpec where
  name : String
  short : Option Char
  takesValue : Bool
  /-- The value is a path, which is never empty. -/
  isPath : Bool
deriving DecidableEq, Repr

namespace OptionSpec

def flag (name : String) (short : Option Char) : OptionSpec := ⟨name, short, false, false⟩

def value (name : String) (short : Option Char) : OptionSpec := ⟨name, short, true, false⟩

def path (name : String) (short : Option Char) : OptionSpec := ⟨name, short, true, true⟩

end OptionSpec

/-- Why reading ends early. -/
inductive Halt where
  /-- The arguments have no meaning. -/
  | refused
  | help
  | version
deriving DecidableEq, Repr

/-- What may be given at one level. -/
structure Level where
  options : List OptionSpec
  /-- The names of the levels below; without any, arguments count by position. -/
  choices : List String
  hasVersion : Bool
deriving Repr

/-- What was given at one level. -/
structure Given where
  values : List (String × String)
  flags : List String
  positions : List String
deriving DecidableEq, Repr

namespace Given

def empty : Given := ⟨[], [], []⟩

/-- The value of an option. -/
def value? (given : Given) (name : String) : Option String := given.values.lookup name

/-- A flag was given. -/
def has (given : Given) (name : String) : Bool := given.flags.contains name

/-- Takes the value of an option. -/
def addValue (given : Given) (option : OptionSpec) (value : String) : Except Halt Given :=
  if (given.value? option.name).isSome ∨ (option.isPath ∧ value = "") then .error .refused
  else .ok { given with values := given.values ++ [(option.name, value)] }

/-- Takes a flag. -/
def addFlag (given : Given) (option : OptionSpec) : Except Halt Given :=
  if given.has option.name then .error .refused
  else .ok { given with flags := given.flags ++ [option.name] }

end Given

namespace Level

variable (level : Level)

/-- Reads a cluster of letters. The value of an option may follow its letter at once or after an
equals sign; if it does not, the option is left waiting for it. -/
def readCluster (given : Given) : List Char → Except Halt (Given × Option OptionSpec)
  | [] => .ok (given, none)
  | c :: rest =>
    match level.options.find? (·.short == some c) with
    | some option =>
      if option.takesValue then
        match rest with
        | [] => .ok (given, some option)
        | '=' :: value => do return (← given.addValue option (String.ofList value), none)
        | value => do return (← given.addValue option (String.ofList value), none)
      else do readCluster (← given.addFlag option) rest
    | none =>
      if c = 'h' then .error .help
      else if c = 'V' ∧ level.hasVersion then .error .version
      else .error .refused

/-- Reads an option by its name, with a value after an equals sign if there is one. -/
def readLong (given : Given) (text : List Char) : Except Halt (Given × Option OptionSpec) :=
  let name := String.ofList (text.takeWhile (· != '='))
  let value? := match text.dropWhile (· != '=') with
    | _ :: value => some (String.ofList value)
    | [] => none
  match level.options.find? (·.name == name), value? with
  | some option, some value =>
    if option.takesValue then do return (← given.addValue option value, none)
    else .error .refused
  | some option, none =>
    if option.takesValue then .ok (given, some option)
    else do return (← given.addFlag option, none)
  | none, some _ => .error .refused
  | none, none =>
    if name = "help" then .error .help
    else if name = "version" ∧ level.hasVersion then .error .version
    else .error .refused

/-- What was given at a level, and the name of the next level with the arguments after it. -/
abbrev Scan := Given × Option (String × List String)

/-- Reads arguments. `waiting` is an option whose value comes next; `literal` says that all that
follows counts by position. -/
def scan (given : Given) (waiting : Option OptionSpec) (literal : Bool) :
    List String → Except Halt Scan
  | [] => if waiting.isSome then .error .refused else .ok (given, none)
  | argument :: rest =>
    if literal then
      if level.choices.isEmpty then
        scan { given with positions := given.positions ++ [argument] } none true rest
      else .error .refused
    else
      match argument.toList, waiting with
      | ['-', '-'], some _ => .error .refused
      | ['-', '-'], none => scan given none true rest
      | '-' :: _ :: _, some _ => .error .refused
      | '-' :: '-' :: text, none => do
        let (given, waiting) ← level.readLong given text
        scan given waiting false rest
      | '-' :: c :: letters, none => do
        let (given, waiting) ← level.readCluster given (c :: letters)
        scan given waiting false rest
      | _, some option => do scan (← given.addValue option argument) none false rest
      | _, none =>
        if level.choices.isEmpty then
          scan { given with positions := given.positions ++ [argument] } none false rest
        else if level.choices.contains argument then .ok (given, some (argument, rest))
        else if argument = "help" then .error .help
        else .error .refused

end Level

end StrategyDesk
