import StrategyDesk.Number.Reading
import StrategyDesk.Url.Basic

/-!
# Reading URLs

An absolute URL is read the way browsers do: blanks around it and line ends inside it do not
count, backslashes stand for slashes, and what has to be encoded is.

## Main Definitions

* `Address` — a web address, or an address of another scheme
* `Address.parse`
-/

namespace StrategyDesk

/-- What an absolute URL leads to. -/
inductive Address where
  | web (url : WebUrl)
  /-- A URL of another scheme, of which only the scheme is kept. -/
  | other (scheme : String)
deriving DecidableEq, Repr

namespace Address

/-- The text without control characters and blanks around it, and without tabs and line ends. -/
def tidy (text : List Char) : List Char :=
  let isEdge (c : Char) : Bool := c.toNat ≤ 0x20
  (((text.dropWhile isEdge).reverse.dropWhile isEdge).reverse).filter fun c =>
    c != '\t' && c != '\n' && c != '\r'

/-- The scheme in lower case, and what follows its colon. -/
def splitScheme? (text : List Char) : Option (String × List Char) :=
  let isSchemeChar (c : Char) : Bool := c.isAlphanum || c == '+' || c == '-' || c == '.'
  match text.head?, text.dropWhile isSchemeChar with
  | some first, ':' :: rest =>
    if first.isAlpha then
      some (String.ofList ((text.takeWhile isSchemeChar).map Char.toLower), rest)
    else none
  | _, _ => none

/-- The schemes whose URLs have a host that is a domain name, and the port that belongs to each. -/
def hostSchemes : List (String × Nat) :=
  [("http", 80), ("https", 443), ("ws", 80), ("wss", 443), ("ftp", 21)]

/-- A slash; in these schemes a backslash is one too. -/
def isSlash (special : Bool) (c : Char) : Bool := c == '/' || (special && c == '\\')

/-- The characters that end the host part. -/
def endsAuthority (special : Bool) (c : Char) : Bool :=
  isSlash special c || c == '?' || c == '#'

/-! ## Parts of the authority -/

/-- The text before and after the last at sign. -/
def splitLastAt? (text : List Char) : Option (List Char × List Char) :=
  if text.contains '@' then
    let after := (text.reverse.takeWhile (· != '@')).reverse
    some (text.take (text.length - after.length - 1), after)
  else none

/-- User name, password, and the text of host and port. -/
def splitCredentials (authority : List Char) : String × String × List Char :=
  let encode (part : List Char) : String := String.ofList (percentEncode .userInfo part)
  match splitLastAt? authority with
  | none => ("", "", authority)
  | some (before, after) =>
    (encode (before.takeWhile (· != ':')), encode ((before.dropWhile (· != ':')).drop 1), after)

/-- The text of the host, and what follows the colon after it. A colon between brackets belongs
to the host. -/
def splitPort (bracketed : Bool) : List Char → List Char × Option (List Char)
  | [] => ([], none)
  | c :: rest =>
    if c = ':' ∧ !bracketed then ([], some rest)
    else
      let (host, port) := splitPort (c = '[' || (bracketed && c != ']')) rest
      (c :: host, port)

/-- A port of at most 16 bits; nothing at all, and the port that belongs to the scheme, read as
absent. -/
def readPort (default : Option Nat) : Option (List Char) → Except UrlFault (Option Nat)
  | none => .ok none
  | some digits =>
    if digits.isEmpty then .ok none
    else if digits.all Char.isDigit then
      let port := digitsValue 0 digits
      if 65535 < port then .error .badPort
      else .ok (if some port = default then none else some port)
    else .error .badPort

/-! ## Path, query, fragment -/

/-- A path as segments: encoded, and dots carried out. -/
def readPath (special : Bool) (text : List Char) : List String :=
  let slashes := text.map fun c => if isSlash special c then '/' else c
  let pieces := splitChars '/' slashes
  let encode (piece : List Char) : String := String.ofList (percentEncode .path piece)
  let step (path : List String) (piece : List Char) : List String :=
    match DotSegment.of? (encode piece) with
    | none => path ++ [encode piece]
    | some .here => path
    | some .up => path.dropLast
  WebUrl.addSegment (pieces.dropLast.foldl step []) (encode (pieces.getLast?.getD []))

/-- The text before a mark, and the text after it if the mark is there. -/
def splitMark (mark : Char) (text : List Char) : List Char × Option (List Char) :=
  match text.dropWhile (· != mark) with
  | [] => (text, none)
  | _ :: after => (text.takeWhile (· != mark), some after)

/-! ## The whole -/

/-- A URL with a host that is a domain name. -/
def readWeb (scheme : String) (port : Nat) (text : List Char) : Except UrlFault WebUrl := do
  let body := text.dropWhile (isSlash true)
  let authority := body.takeWhile fun c => !endsAuthority true c
  let rest := body.drop authority.length
  let (user, password, hostPort) := splitCredentials authority
  let (hostText, portText) := splitPort false hostPort
  if hostText.isEmpty then throw .emptyHost
  let host ← Host.parse hostText
  let port ← readPort (some port) portText
  let (beforeFragment, fragment) := splitMark '#' rest
  let (path, query) := splitMark '?' beforeFragment
  let path := match path with
    | c :: after => if isSlash true c then after else path
    | [] => []
  return {
    secure := scheme = "https"
    user, password, host, port
    path := readPath true path
    query := query.map fun q => String.ofList (percentEncode .query q)
    fragment := fragment.map fun f => String.ofList (percentEncode .fragment f) }

/-- A letter and a colon or bar, which name a drive and no host. -/
def isDriveLetter : List Char → Bool
  | [letter, mark] => letter.isAlpha && (mark == ':' || mark == '|')
  | _ => false

/-- Whether the URL of a file is well formed: its host, if there is one, has to be a host. -/
def checkFile (text : List Char) : Except UrlFault Unit :=
  match text with
  | a :: b :: rest =>
    if isSlash true a ∧ isSlash true b then
      let host := rest.takeWhile fun c => !endsAuthority true c
      if host.isEmpty || isDriveLetter host then .ok () else (Host.parse host).map fun _ => ()
    else .ok ()
  | _ => .ok ()

/-- Whether a URL of any other scheme is well formed. -/
def checkOther (text : List Char) : Except UrlFault Unit :=
  match text with
  | '/' :: '/' :: body => do
    let authority := body.takeWhile fun c => !endsAuthority false c
    let (user, password, hostPort) := splitCredentials authority
    let (hostText, portText) := splitPort false hostPort
    let cutShort := authority = ['@'] ∧ authority.length < body.length
    if hostText.isEmpty ∧ (user ≠ "" ∨ password ≠ "" ∨ portText.isSome ∨ cutShort) then
      throw .emptyHost
    Host.checkOpaque hostText
    let _ ← readPort none (portText.map fun port => port.takeWhile (· != '\\'))
  | _ => .ok ()

/-- Reads an absolute URL. -/
def parse (text : String) : Except UrlFault Address :=
  match splitScheme? (tidy text.toList) with
  | none => .error .relative
  | some (scheme, rest) =>
    match hostSchemes.lookup scheme with
    | some port => do
      let url ← readWeb scheme port rest
      return if scheme = "http" ∨ scheme = "https" then web url else other scheme
    | none => do
      if scheme = "file" then checkFile rest else checkOther rest
      return other scheme

end Address

end StrategyDesk
