import AnomalyWatch.Url.Host

/-!
Addresses of resources, and their written form.

An address is kept in its normal form: the parts are percent-encoded as they stand, the default port of a scheme is
no port, and dot segments are resolved. A path is a list of segments, or a text when nothing can be appended to it.
-/

set_option autoImplicit false
set_option relaxedAutoImplicit false

namespace AnomalyWatch

/-- What an address says behind its authority and before its query. -/
inductive UrlPath where
  /-- A path that nothing can be appended to. -/
  | whole (text : List Char)
  | segments (list : List (List Char))
  deriving DecidableEq, Repr

/-- Who answers under an address. -/
structure Authority where
  user : List Char
  password : List Char
  host : Host
  port : Option Nat
  deriving DecidableEq, Repr

/-- An address. -/
structure Url where
  scheme : List Char
  authority : Option Authority
  path : UrlPath
  query : Option (List Char)
  fragment : Option (List Char)
  deriving DecidableEq, Repr

/-- What a scheme means for the rest of an address. -/
inductive SchemeKind
  /-- A scheme with a default port and a host. -/
  | network (port : Nat)
  | file
  | other
  deriving DecidableEq, Repr

namespace SchemeKind

def ofScheme (scheme : List Char) : SchemeKind :=
  match String.ofList scheme with
  | "http" | "ws" => .network 80
  | "https" | "wss" => .network 443
  | "ftp" => .network 21
  | "file" => .file
  | _ => .other

/-- Backslashes separate segments, and there is always a path with segments. -/
def isSpecial : SchemeKind → Bool
  | .network _ | .file => true
  | .other => false

end SchemeKind

namespace Authority

/-- The user and the password with the sign behind them. -/
def credentials (a : Authority) : List Char :=
  let password := if a.password.isEmpty then [] else ':' :: a.password
  if a.user.isEmpty && a.password.isEmpty then [] else a.user ++ password ++ ['@']

def chars (a : Authority) : List Char :=
  let port :=
    match a.port with
    | some port => ':' :: Text.decimal port
    | none => []
  a.credentials ++ a.host.chars ++ port

end Authority

namespace UrlPath

def chars : UrlPath → List Char
  | .whole text => text
  | .segments list => list.flatMap ('/' :: ·)

/-- The path has segments behind an empty first one, which would look like an authority. -/
def looksLikeAuthority : UrlPath → Bool
  | .segments ([] :: _ :: _) => true
  | _ => false

/-- The segments without an empty one at the end. -/
def withoutEmptyEnd (list : List (List Char)) : List (List Char) :=
  if list.getLast? = some [] then list.dropLast else list

end UrlPath

namespace Url

def kind (u : Url) : SchemeKind := .ofScheme u.scheme

def isBaseless (u : Url) : Bool :=
  match u.path with
  | .whole _ => true
  | .segments _ => false

/-- The characters of a segment that are encoded. -/
def segmentReserved (u : Url) : Percent.Reserved :=
  if u.kind.isSpecial then .specialSegment else .segment

/-- A part behind a mark, if there is such a part. -/
def marked (mark : Char) : Option (List Char) → List Char
  | some text => mark :: text
  | none => []

def target (u : Url) : List Char :=
  u.path.chars ++ marked '?' u.query

def chars (u : Url) : List Char :=
  let authority :=
    match u.authority with
    | some a => '/' :: '/' :: a.chars
    | none => if u.path.looksLikeAuthority then ['/', '.'] else []
  u.scheme ++ ':' :: authority ++ u.target ++ marked '#' u.fragment

def text (u : Url) : String := String.ofList u.chars

/-- Characters that an address cannot hold and that are dropped wherever they stand. -/
def isDropped (c : Char) : Bool :=
  c == '\t' || c == '\n' || c == '\r'

def segment (u : Url) (cs : List Char) : List Char :=
  Percent.encode u.segmentReserved (cs.filter fun c => !isDropped c)

end Url

end AnomalyWatch
