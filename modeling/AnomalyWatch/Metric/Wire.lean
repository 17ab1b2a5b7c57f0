import AnomalyWatch.Metric.Service

/-!
Requests and responses as they go over a connection that is closed after one exchange.

A response has a status line, fields, an empty line and a body. The body ends where the connection does, unless a
length is announced or it comes in chunks; a body that is shorter than announced cannot be used.
-/

set_option autoImplicit false
set_option relaxedAutoImplicit false

namespace AnomalyWatch.Wire

/-- The host of an address, with its port if it has one. -/
def hostField (u : Url) : List Char :=
  match u.authority with
  | some a => { a with user := [], password := [] : Authority }.chars
  | none => []

def request (u : Url) : String :=
  "GET " ++ String.ofList u.target ++ " HTTP/1.1\r\nhost: " ++ String.ofList (hostField u) ++
    "\r\naccept: */*\r\nconnection: close\r\n\r\n"

/-- Bytes as characters of the same numbers. -/
def chars (bytes : ByteArray) : List Char :=
  bytes.toList.map fun b => Char.ofNat b.toNat

/-- The text in bytes that are given as characters of the same numbers. -/
def text? (cs : List Char) : Option String :=
  String.fromUTF8? ⟨(cs.map fun c => UInt8.ofNat c.toNat).toArray⟩

/-- A line without its line end, and what follows it. -/
def cutLine : List Char → Option (List Char × List Char)
  | '\r' :: '\n' :: rest => some ([], rest)
  | '\n' :: rest => some ([], rest)
  | c :: rest => (cutLine rest).map fun r => (c :: r.1, r.2)
  | [] => none

def status? (line : List Char) : Option Nat :=
  match Text.words line with
  | version :: code :: _ =>
    if "HTTP/".toList.isPrefixOf version && code.length = 3 then Text.natural? 10 code else none
  | _ => none

/-- A field by its name in lower case. -/
def field (line : List Char) : String × String :=
  let name := line.takeWhile (· ≠ ':')
  (String.ofList (name.map Char.toLower),
    Text.trim (String.ofList (line.drop (name.length + 1))))

/-- Fields up to the empty line, and what follows it. -/
def fields : Nat → List Char → Option (List (String × String) × List Char)
  | 0, _ => none
  | fuel + 1, cs => do
    let (line, rest) ← cutLine cs
    if line.isEmpty then return ([], rest)
    else
      let (more, rest) ← fields fuel rest
      return (field line :: more, rest)

/-- A body that comes in chunks, each behind a line with its length. -/
def chunks : Nat → List Char → Option (List Char)
  | 0, _ => none
  | fuel + 1, cs => do
    let (line, rest) ← cutLine cs
    let length ← Text.natural? 16 (line.takeWhile fun c => (Text.digitValue? 16 c).isSome)
    if length = 0 then return []
    else if rest.length < length then none
    else
      let (_, next) ← cutLine (rest.drop length)
      return rest.take length ++ (← chunks fuel next)

/-- The body behind the fields, if it is there whole. -/
def body? (fs : List (String × String)) (cs : List Char) : Option (List Char) :=
  if fs.lookup "transfer-encoding" = some "chunked" then chunks (cs.length + 1) cs
  else
    match fs.lookup "content-length" with
    | none => some cs
    | some length => do
      let length ← Text.natural? 10 length.toList
      if cs.length < length then none else return cs.take length

/-- The exchange that the bytes of a response make. -/
def exchange (bytes : ByteArray) : Exchange :=
  let response : Option Exchange := do
    let (line, rest) ← cutLine (chars bytes)
    let status ← status? line
    let (fs, rest) ← fields (rest.length + 1) rest
    return .received status ((body? fs rest).bind text?)
  response.getD (.failed "no valid response")

end AnomalyWatch.Wire
