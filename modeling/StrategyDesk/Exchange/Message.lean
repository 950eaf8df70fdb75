import StrategyDesk.Exchange.Http

/-!
# Messages

Requests and replies as HTTP/1.1 puts them on a connection.

## Main Definitions

* `HttpRequest.message` — the bytes of a request
* `HttpReply.ofBytes?` — the reply in the bytes that have arrived, once it is complete

## Design Notes

Each request has a connection of its own, so a reply that does not tell its length lasts until the
connection is closed.
-/

namespace StrategyDesk

/-! ## Requests -/

/-- The fields of a request. -/
def HttpRequest.fields (r : HttpRequest) : List (String × String) :=
  let host := r.url.host.text ++ WebUrl.marked ":" (r.url.port.map toString)
  let common := [("host", host), ("accept", "*/*"), ("connection", "close")]
  match r.body with
  | none => common
  | some body =>
    common ++ [("content-type", "application/json"),
      ("content-length", toString body.compact.utf8ByteSize)]

/-- The bytes of a request. -/
def HttpRequest.message (r : HttpRequest) : ByteArray :=
  let first := r.verb.name ++ " " ++ r.url.target ++ " HTTP/1.1"
  let lines := first :: r.fields.map fun (name, value) => name ++ ": " ++ value
  let head := String.join (lines.map (· ++ "\r\n")) ++ "\r\n"
  (head ++ ((r.body.map Json.compact).getD "")).toUTF8

/-! ## Replies -/

namespace HttpReply

/-- The bytes of a line as text, and the bytes after its end. -/
def readLine? (bytes : List UInt8) : Option (String × List UInt8) :=
  match bytes.dropWhile (· ≠ 10) with
  | [] => none
  | _ :: rest =>
    let line := String.ofList ((bytes.takeWhile (· ≠ 10)).map fun b => Char.ofNat b.toNat)
    some (dropTrailing '\r' line, rest)

/-- The status in the first line of a reply. -/
def readStatus? (line : String) : Option Nat :=
  match splitText ' ' line with
  | version :: status :: _ =>
    if version.startsWith "HTTP/" then parseWord? 1000 status.toList else none
  | _ => none

/-- The fields of a head up to the empty line that ends it. Names are in lower case. -/
def readFields? : Nat → List UInt8 → Option (List (String × String) × List UInt8)
  | 0, _ => none
  | fuel + 1, bytes => do
    let (line, rest) ← readLine? bytes
    if line = "" then some ([], rest)
    else
      let (fields, rest) ← readFields? fuel rest
      let name := String.ofList (line.toList.takeWhile (· ≠ ':'))
      let value := String.ofList ((line.toList.dropWhile (· ≠ ':')).drop 1)
      some ((lowerAscii (trim name), trim value) :: fields, rest)

/-- A body in chunks, each after its length; one of length zero is the last. -/
def readChunks? : Nat → List UInt8 → Option (List UInt8)
  | 0, _ => none
  | fuel + 1, bytes => do
    let (line, rest) ← readLine? bytes
    let digits := (trim line).toList.takeWhile (· ≠ ';')
    let length ← digitsInBase? 16 digits
    if length = 0 then some []
    else if rest.length < length then none
    else
      let (_, after) ← readLine? (rest.drop length)
      some (rest.take length ++ (← readChunks? fuel after))

/-- The body after a head, once it is complete. -/
def readBody? (fields : List (String × String)) (closed : Bool) (bytes : List UInt8) :
    Option (List UInt8) :=
  if (fields.lookup "transfer-encoding").map lowerAscii = some "chunked" then
    readChunks? (bytes.length + 1) bytes
  else
    match (fields.lookup "content-length").bind fun n => parseWord? (wordSize 64) n.toList with
    | some length => if bytes.length < length then none else some (bytes.take length)
    | none => if closed then some bytes else none

/-- Bytes as text; those that are none become replacement characters. -/
def textOfBytes (bytes : List UInt8) : String :=
  (String.fromUTF8? (ByteArray.mk bytes.toArray)).getD <|
    String.ofList (bytes.map fun b => if b < 128 then Char.ofNat b.toNat else '\uFFFD')

/-- The reply in the bytes that have arrived; `closed` tells that no more will. Replies that only
announce another one are passed over. -/
def readReply? : Nat → Bool → List UInt8 → Option HttpReply
  | 0, _, _ => none
  | fuel + 1, closed, bytes => do
    let (line, rest) ← readLine? bytes
    let status ← readStatus? line
    let (fields, rest) ← readFields? (rest.length + 1) rest
    if status < 200 then readReply? fuel closed rest
    else
      let bare : HttpReply := ⟨status, ""⟩
      if bare.isBare then some bare
      else some ⟨status, textOfBytes (← readBody? fields closed rest)⟩

/-- The reply in the bytes that have arrived, once it is complete. -/
def ofBytes? (closed : Bool) (bytes : ByteArray) : Option HttpReply :=
  readReply? (bytes.size + 1) closed bytes.toList

end HttpReply

end StrategyDesk
