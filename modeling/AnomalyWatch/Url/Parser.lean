import AnomalyWatch.Url.Basic

/-!
Reading addresses.

Blanks and control characters around an address and tabs and line ends within it are dropped. A scheme is required.
Segments `.` and `..` are resolved, also in percent form.
-/

set_option autoImplicit false
set_option relaxedAutoImplicit false

namespace AnomalyWatch.Url

open AnomalyWatch.Percent (encode)

namespace Parser

def isMargin (c : Char) : Bool := c.toNat ≤ 0x20

/-- A text without its margins and without the characters that are dropped. -/
def cleaned (cs : List Char) : List Char :=
  (((cs.dropWhile isMargin).reverse.dropWhile isMargin).reverse).filter fun c => !isDropped c

def isSchemeChar (c : Char) : Bool :=
  c.isAlphanum || c == '+' || c == '-' || c == '.'

/-- The scheme of an address in lower case, and what follows its colon. -/
def scheme? (cs : List Char) : Option (List Char × List Char) :=
  match cs.takeWhile isSchemeChar, cs.dropWhile isSchemeChar with
  | c :: name, ':' :: rest => if c.isAlpha then some ((c :: name).map Char.toLower, rest) else none
  | _, _ => none

/-- Cut a text at the first occurrence of a mark. -/
def cutAt (mark : Char) (cs : List Char) : List Char × Option (List Char) :=
  match cs.dropWhile (· ≠ mark) with
  | _ :: rest => (cs.takeWhile (· ≠ mark), some rest)
  | [] => (cs, none)

def isSlash (special : Bool) (c : Char) : Bool :=
  c == '/' || (special && c == '\\')

/-- The user, the password and what follows them in an authority. -/
def credentials (cs : List Char) : List Char × List Char × List Char :=
  if cs.contains '@' then
    let rest := (cs.reverse.takeWhile (· ≠ '@')).reverse
    let (user, password) := cutAt ':' (cs.take (cs.length - rest.length - 1))
    (encode .userInfo user, encode .userInfo (password.getD []), rest)
  else ([], [], cs)

/-- The host of an authority, and what follows it. A colon in brackets belongs to the host. -/
def hostPart (inBrackets : Bool) : List Char → List Char × List Char
  | [] => ([], [])
  | c :: cs =>
    if c == ':' && !inBrackets then ([], c :: cs)
    else
      let r := hostPart (c == '[' || (inBrackets && c != ']')) cs
      (c :: r.1, r.2)

/-- The port behind a host; the default port of the scheme and an empty one are no port. -/
def port? (kind : SchemeKind) : List Char → Option (Option Nat)
  | [] => some none
  | [':'] => some none
  | ':' :: ds => do
    let port ← Text.natural? 10 ds
    if 0x10000 ≤ port then none
    else return if kind = .network port then none else some port
  | _ => none

/-- An authority. Only a scheme that is not special may go without a host. -/
def authority? (kind : SchemeKind) (cs : List Char) : Option Authority := do
  let (user, password, rest) := credentials cs
  let (hostText, portText) := hostPart false rest
  let host ← if kind.isSpecial then Host.ofDomain? hostText else Host.ofText? hostText
  let port ← port? kind portText
  let plain := user.isEmpty && password.isEmpty && portText.isEmpty
  if host = .nowhere && !plain then none else return ⟨user, password, host, port⟩

/-- A segment that stands for the directory it is in. -/
def isHere (segment : List Char) : Bool :=
  let s := segment.map Char.toLower
  s == ['.'] || s == ['%', '2', 'e']

/-- A segment that stands for the directory above. -/
def isAbove (segment : List Char) : Bool :=
  match segment.map Char.toLower with
  | '.' :: rest => isHere rest
  | '%' :: '2' :: 'e' :: rest => isHere rest
  | _ => false

/-- A drive: a letter with a colon or a bar. -/
def drive? : List Char → Option (List Char)
  | [letter, mark] => if letter.isAlpha && (mark == ':' || mark == '|') then some [letter, ':'] else none
  | _ => none

/-- A path without its last segment; the drive of a file stays. -/
def shorten (kind : SchemeKind) (path : List (List Char)) : List (List Char) :=
  match path with
  | [only] => if kind = .file && drive? only = some only then path else []
  | _ => path.dropLast

/-- Go on from a path by one segment. -/
def step (kind : SchemeKind) (path : List (List Char)) (segment : List Char) : List (List Char) :=
  match drive? segment with
  | some drive => path ++ [if kind = .file && path.isEmpty then drive else encode .path segment]
  | none => path ++ [encode .path segment]

/-- Go on from a path by segments; a path that ends in a directory ends in an empty segment. -/
def walk (kind : SchemeKind) (path : List (List Char)) : List (List Char) → List (List Char)
  | [] => path
  | segment :: rest =>
    let closed (p : List (List Char)) := if rest.isEmpty then p ++ [[]] else p
    if isAbove segment then walk kind (closed (shorten kind path)) rest
    else if isHere segment then walk kind (closed path) rest
    else walk kind (step kind path segment) rest

/-- A path without empty segments in front; one segment stays. -/
def dropEmptyFront : List (List Char) → List (List Char)
  | [] :: next :: rest => dropEmptyFront (next :: rest)
  | path => path

def segments (kind : SchemeKind) (cs : List Char) : List (List Char) :=
  let isCut := isSlash kind.isSpecial
  let path :=
    match cs with
    | [] => if kind.isSpecial then [[]] else []
    | c :: rest => walk kind [] (Text.pieces isCut (if isCut c then rest else c :: rest))
  if kind = .file then dropEmptyFront path else path

def filePart? (cs : List Char) : Option (Authority × List (List Char)) :=
  let at_ (host : Host) (path : List Char) := (Authority.mk [] [] host none, segments .file path)
  match cs with
  | a :: b :: rest =>
    if isSlash true a && isSlash true b then
      let name := rest.takeWhile fun c => !isSlash true c
      let path := rest.dropWhile fun c => !isSlash true c
      if name.isEmpty then some (at_ .nowhere path)
      else if (drive? name).isSome then some (at_ .nowhere rest)
      else do
        let host ← Host.ofDomain? name
        return at_ (if host = .name "localhost".toList then .nowhere else host) path
    else some (at_ .nowhere cs)
  | _ => some (at_ .nowhere cs)

def body? (kind : SchemeKind) (cs : List Char) : Option (Option Authority × UrlPath) :=
  let located (cs : List Char) : Option (Option Authority × UrlPath) := do
    let isEnd := isSlash kind.isSpecial
    let authority ← authority? kind (cs.takeWhile fun c => !isEnd c)
    return (some authority, .segments (segments kind (cs.dropWhile fun c => !isEnd c)))
  match kind, cs with
  | .file, cs => (filePart? cs).map fun r => (some r.1, .segments r.2)
  | .network _, cs => located (cs.dropWhile (isSlash true))
  | .other, '/' :: '/' :: cs => located cs
  | .other, '/' :: cs => some (none, .segments (segments .other ('/' :: cs)))
  | .other, cs => some (none, .whole (encode .controls cs))

end Parser

open AnomalyWatch.Url.Parser

def parse? (text : String) : Option Url := do
  let (scheme, rest) ← scheme? (cleaned text.toList)
  let kind := SchemeKind.ofScheme scheme
  let (rest, fragment) := cutAt '#' rest
  let (rest, query) := cutAt '?' rest
  let (authority, path) ← body? kind rest
  let queryReserved : Percent.Reserved := if kind.isSpecial then .specialQuery else .query
  return ⟨scheme, authority, path, query.map (encode queryReserved), fragment.map (encode .fragment)⟩

end AnomalyWatch.Url
