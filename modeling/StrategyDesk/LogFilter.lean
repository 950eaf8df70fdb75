import StrategyDesk.Text.Blank
import StrategyDesk.Text.Layout
import StrategyDesk.Number.Reading

/-!
# Log filters

The filter for the client's own log: directives with commas between them, each a level, a target,
or a target with spans and fields and a level.

## Main Definitions

* `LogDirective` — one directive
* `logFilterText` — a filter in normal form: the most specific directives first
-/

namespace StrategyDesk

/-- How much is logged. -/
inductive Verbosity where
  | off
  | error
  | warn
  | info
  | debug
  | trace
deriving DecidableEq, Repr

namespace Verbosity

def name : Verbosity → String
  | off => "off"
  | error => "error"
  | warn => "warn"
  | info => "info"
  | debug => "debug"
  | trace => "trace"

def all : List Verbosity := [off, error, warn, info, debug, trace]

/-- The verbosity under its name in any case or its number. -/
def ofText? (text : String) : Option Verbosity :=
  match parseWord? (wordSize 64) text.toList with
  | some n => if h : n < all.length then some all[n] else byName
  | none => byName
where
  byName : Option Verbosity := all.find? fun v => v.name == lowerAscii text

end Verbosity

/-- One directive of a filter. -/
structure LogDirective where
  target : Option String
  span : Option String
  /-- Fields, each with a value if it has to have a certain one. -/
  fields : List String
  level : Verbosity
deriving DecidableEq, Repr

namespace LogDirective

/-- A letter or digit, or a mark that may begin a target. -/
def mayBegin (c : Char) : Bool :=
  c == '-' || c == ':' || c == '_' || c.isAlphanum || 0x7F < c.toNat

/-- What follows the closing bracket of spans and fields: nothing, or the level. -/
def readLevel? (base : LogDirective) : List Char → Option LogDirective
  | [] => some base
  | '=' :: level =>
    if level.isEmpty then some base
    else (Verbosity.ofText? (String.ofList level)).map fun level => { base with level := level }
  | _ => none

/-- Fields up to the closing brace and bracket. -/
def readFields? (base : LogDirective) (text : List Char) : Option LogDirective :=
  let inside := text.takeWhile (· != '\x7d')
  let fields := splitChars ',' inside
  if fields.any List.isEmpty then none
  else match text.drop inside.length with
    | '\x7d' :: ']' :: rest =>
      readLevel? { base with fields := fields.map String.ofList } rest
    | _ => none

/-- A span and fields, the opening bracket already taken. -/
def readSpan? (target : Option String) (text : List Char) : Option LogDirective :=
  let span := text.takeWhile fun c => c != ']' && c != '\x7b'
  match text.drop span.length with
  | ']' :: rest => readLevel? ⟨target, some (String.ofList span), [], .trace⟩ rest
  | '\x7b' :: rest =>
    readFields? ⟨target, if span.isEmpty then none else some (String.ofList span), [], .trace⟩ rest
  | _ => none

/-- A directive. A text that is neither a level nor has one is a target, of which everything is
logged. -/
def parse? (text : String) : Option LogDirective :=
  match text.toList with
  | [] => none
  | '[' :: rest => readSpan? none rest
  | chars@(first :: _) =>
    if !mayBegin first then none
    else
      let head := chars.takeWhile fun c => c != '=' && c != '['
      match chars.drop head.length with
      | '=' :: level =>
        readLevel? ⟨some (String.ofList head), none, [], .trace⟩ ('=' :: level)
      | '[' :: rest => readSpan? (some (String.ofList head)) rest
      | _ =>
        match Verbosity.ofText? text with
        | some level => some ⟨none, none, [], level⟩
        | none => some ⟨some text, none, [], .trace⟩

/-- The directive depends on the spans that are open. -/
def isDynamic (d : LogDirective) : Bool := d.span.isSome || !d.fields.isEmpty

/-- The directive can be decided by the place of a message alone, at least in part. -/
def isStatic (d : LogDirective) : Bool :=
  d.span.isNone && d.fields.all fun field => !field.toList.contains '='

/-- The text of a directive. -/
def text (d : LogDirective) : String :=
  let fields :=
    if d.fields.isEmpty then "" else "\x7b" ++ String.intercalate "," d.fields ++ "\x7d"
  let scope := if d.isDynamic then "[" ++ d.span.getD "" ++ fields ++ "]" else ""
  let place := d.target.getD "" ++ scope
  (if d.target.isSome || d.isDynamic then place ++ "=" else "") ++ d.level.name

/-- An absent text comes before any other. -/
def compareText : Option String → Option String → Ordering
  | none, none => .eq
  | none, some _ => .lt
  | some _, none => .gt
  | some a, some b => compare a b

/-- The order of how much a directive asks for: the length of its target, a span, the number of
its fields, and then their texts. -/
def specificity (a b : LogDirective) : Ordering :=
  let size (d : LogDirective) : Nat := match d.target with
    | some target => target.utf8ByteSize + 1
    | none => 0
  (compare (size a) (size b)).then <|
  (compare a.span.isSome.toNat b.span.isSome.toNat).then <|
  (compare a.fields.length b.fields.length).then <|
  (compareText a.target b.target).then <|
  (compareText a.span b.span).then <|
  compare a.fields b.fields

/-- Puts a directive at its place, the more specific ones first; one that asks for the same place
replaces the other. -/
def insert (d : LogDirective) : List LogDirective → List LogDirective
  | [] => [d]
  | head :: rest =>
    match specificity d head with
    | .gt => d :: head :: rest
    | .eq => d :: rest
    | .lt => head :: insert d rest

end LogDirective

/-- The directives of a filter. -/
def logDirectives? (filter : String) : Option (List LogDirective) :=
  ((splitText ',' filter).filter (· != "")).mapM LogDirective.parse?

/-- Directives in normal form. Those decided by the place of a message come first. -/
def directivesText (directives : List LogDirective) : String :=
  let sorted (ds : List LogDirective) := ds.foldl (fun acc d => LogDirective.insert d acc) []
  let dynamic := directives.filter (·.isDynamic)
  let static := directives.filter (fun d => !d.isDynamic) ++ dynamic.filter (·.isStatic)
  String.intercalate "," ((sorted static ++ sorted dynamic).map (·.text))

/-- The filter in force, in normal form: that of the environment if it is one, else the configured
one, else plain `info`. -/
def logFilterText (configured : String) (environment : Option String) : String :=
  match environment.bind logDirectives? with
  | some directives => directivesText directives
  | none =>
    match logDirectives? configured with
    | some directives => directivesText directives
    | none => "info"

end StrategyDesk
