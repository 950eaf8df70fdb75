import StrategyDesk.Url.Host

/-!
# Web addresses

Absolute URLs of the schemes `http` and `https`, in normal form.

## Main Definitions

* `WebUrl`, `WebUrl.text`
* `WebUrl.join` — the address of a resource below a base
* `WebUrl.addQuery` — one more name and value in the query
* `WebUrl.target` — the part that a request line holds
-/

namespace StrategyDesk

/-- An address. User names, segments, query and fragment are in encoded form. -/
structure WebUrl where
  secure : Bool
  user : String
  password : String
  host : Host
  /-- Absent when it is the one that belongs to the scheme. -/
  port : Option Nat
  /-- The segments after the first slash; the root has one empty segment. -/
  path : List String
  query : Option String
  fragment : Option String
deriving DecidableEq, Repr

/-- The segments of a path that only say where it goes on, after the dots in any encoding. -/
inductive DotSegment where
  /-- The same level. -/
  | here
  /-- One level up. -/
  | up
deriving DecidableEq, Repr

/-- The meaning of a segment that consists of dots, some of which may be encoded. -/
def DotSegment.of? (segment : String) : Option DotSegment :=
  let plain := lowerAscii segment
  if plain ∈ [".", "%2e"] then some .here
  else if plain ∈ ["..", ".%2e", "%2e.", "%2e%2e"] then some .up
  else none

namespace WebUrl

/-- The name of the scheme. -/
def scheme (url : WebUrl) : String := if url.secure then "https" else "http"

/-- Adds a segment to the end of a path. One that only says where the path goes on is carried
out, and leaves the path open at its end. -/
def addSegment (path : List String) (segment : String) : List String :=
  match DotSegment.of? segment with
  | none => path ++ [segment]
  | some .here => path ++ [""]
  | some .up => path.dropLast ++ [""]

/-- A given text as a segment: tabs and line ends are dropped, and all that could be taken for
punctuation is encoded. -/
def encodeSegment (text : String) : String :=
  String.ofList (percentEncode .segment
    (text.toList.filter fun c => c != '\t' && c != '\n' && c != '\r'))

/-- The path without an empty segment at its end. -/
def openPath (path : List String) : List String :=
  if path.getLast? = some "" then path.dropLast else path

/-- The path with one more segment, given as plain text. One that is one or two dots as given is
passed over, and at the root it takes the place of the empty segment. -/
def extendPath (path : List String) (segment : String) : List String :=
  if segment = "." ∨ segment = ".." then path
  else addSegment (if path = [""] then [] else path) (encodeSegment segment)

/-- The path with more segments, given as plain texts. -/
def joinPath (path segments : List String) : List String :=
  let joined := segments.foldl extendPath (openPath path)
  if joined.isEmpty then [""] else joined

/-- The address of a resource below a base address. -/
def join (url : WebUrl) (segments : List String) : WebUrl :=
  { url with path := joinPath url.path segments }

/-- The address with one more name and value in its query. -/
def addQuery (url : WebUrl) (name value : String) : WebUrl :=
  let pair := formEncode name ++ "=" ++ formEncode value
  let query := match url.query with
    | none => pair
    | some query => if query = "" then pair else query ++ "&" ++ pair
  { url with query := some query }

/-- A part of the address that may be absent, after its mark. -/
def marked (mark : String) : Option String → String
  | some part => mark ++ part
  | none => ""

/-- Path and query, as a request line holds them. -/
def target (url : WebUrl) : String :=
  "/" ++ String.intercalate "/" url.path ++ marked "?" url.query

/-- User name and password before the host. -/
def credentials (url : WebUrl) : String :=
  if url.user = "" ∧ url.password = "" then ""
  else url.user ++ (if url.password = "" then "" else ":" ++ url.password) ++ "@"

/-- The written form of the address. -/
def text (url : WebUrl) : String :=
  url.scheme ++ "://" ++ url.credentials ++ url.host.text
    ++ marked ":" (url.port.map toString) ++ url.target ++ marked "#" url.fragment

/-- The written form without slashes at its end. -/
def shortText (url : WebUrl) : String := dropTrailing '/' url.text

end WebUrl

end StrategyDesk
