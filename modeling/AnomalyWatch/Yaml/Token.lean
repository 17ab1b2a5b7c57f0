import AnomalyWatch.Text.Blank
import AnomalyWatch.Yaml.Scalar

/-!
The tokens of a YAML document.

Indentation becomes tokens of its own: a block opens where a line is indented further than the one around it
and closes where a line is indented less. A scalar turns out to be a key only at the colon behind it, so the key
token is put in front of it afterwards; the place is remembered as long as the line lasts and no more than 1024
characters have passed.
-/

set_option autoImplicit false
set_option relaxedAutoImplicit false

namespace AnomalyWatch.Yaml

/-- A token. -/
inductive Token
  | documentStart | documentEnd
  | version (major minor : Nat)
  | tagDirective (handle replaced : String)
  | blockSequence | blockMapping | blockEnd
  | flowSequence | flowSequenceEnd | flowMapping | flowMappingEnd
  | blockEntry | flowEntry | key | value
  | alias (name : String)
  | anchor (name : String)
  | tag (handle rest : String)
  | scalar (style : Style) (text : String)
  deriving DecidableEq, Repr

/-- A place where a key may have started. -/
structure KeyPlace where
  /-- No other reading of the place is possible. -/
  required : Bool
  /-- The number of tokens before it. -/
  position : Nat
  cursor : Cursor

/-- What the tokens so far leave open. -/
structure Scanner where
  cursor : Cursor
  /-- The columns of the open blocks, the innermost first. -/
  columns : List Nat
  /-- A key may start here. -/
  keyAllowed : Bool
  /-- A possible key outside brackets and in each open bracket, the innermost first. -/
  keys : List (Option KeyPlace)
  tokens : Array Token

namespace Scanner

def start (cs : List Char) : Scanner :=
  ⟨Cursor.start cs, [], true, [none], #[]⟩

def inFlow (s : Scanner) : Bool :=
  1 < s.keys.length

/-- The column of the innermost block, -1 outside all blocks. -/
def column (s : Scanner) : Int :=
  match s.columns with
  | [] => -1
  | c :: _ => c

def push (s : Scanner) (t : Token) : Scanner :=
  { s with tokens := s.tokens.push t }

def insert (s : Scanner) (position : Nat) (t : Token) : Scanner :=
  { s with tokens := s.tokens.insertIdxIfInBounds position t }

/-- Forget the possible key of the innermost level; a required one is an error. -/
def dropKey (s : Scanner) : Option Scanner :=
  match s.keys with
  | some k :: rest => if k.required then none else some { s with keys := none :: rest }
  | _ => some s

/-- Remember that a key may start here. -/
def noteKey (s : Scanner) : Option Scanner :=
  if s.keyAllowed then do
    let required := !s.inFlow && s.column = s.cursor.column
    let s ← s.dropKey
    return { s with keys := some ⟨required, s.tokens.size, s.cursor⟩ :: s.keys.drop 1 }
  else some s

/-- The possible key of the innermost level, unless it lies on an earlier line or too far back; a required one
may not have got lost. -/
def openKey (s : Scanner) : Option (Option KeyPlace) :=
  match s.keys with
  | some k :: _ =>
    if k.cursor.line < s.cursor.line || k.cursor.index + 1024 < s.cursor.index then
      if k.required then none else some none
    else some (some k)
  | _ => some none

/-- Close the blocks whose column is greater. -/
def closeBlocks (s : Scanner) (column : Int) : Scanner :=
  if s.inFlow then s
  else
    let closed := s.columns.takeWhile fun c : Nat => column < (c : Int)
    { s with
      columns := s.columns.drop closed.length
      tokens := s.tokens ++ (closed.map fun _ => Token.blockEnd).toArray }

/-- Open a block at a column that is greater than that of the innermost block; its token stands at a
position, or at the end. -/
def openBlock (s : Scanner) (column : Nat) (position : Option Nat) (t : Token) : Scanner :=
  if s.inFlow || (column : Int) ≤ s.column then s
  else
    let s := { s with columns := column :: s.columns }
    match position with
    | some p => s.insert p t
    | none => s.push t

/-- Step over gaps, comments and line breaks. Tabs count only where no key can start. -/
def toNextToken (s : Scanner) : Nat → Scanner
  | 0 => s
  | fuel + 1 =>
    let skipped := s.cursor.rest.takeWhile fun c =>
      c == ' ' || (c == '\t' && (s.inFlow || !s.keyAllowed))
    let c := s.cursor.skip skipped.length
    let c := if c.at? '#' then c.skip (c.rest.takeWhile fun x => !isBreak x).length else c
    match c.lineBreak? with
    | some (_, next) =>
      toNextToken { s with cursor := next, keyAllowed := s.keyAllowed || !s.inFlow } fuel
    | none => { s with cursor := c }

/-- Step over a token of so many characters. -/
def take (s : Scanner) (width : Nat) (t : Token) : Scanner :=
  { s with cursor := s.cursor.skip width }.push t

/-- Set whether a key may start next. -/
def allowKey (s : Scanner) (allowed : Bool) : Scanner :=
  { s with keyAllowed := allowed }

/-- Close every block at a mark between documents. -/
def leaveDocument (s : Scanner) : Option Scanner := do
  let s ← (s.closeBlocks (-1)).dropKey
  return s.allowKey false

def openFlow (s : Scanner) (t : Token) : Option Scanner := do
  let s ← s.noteKey
  return ({ s with keys := none :: s.keys }.allowKey true).take 1 t

def closeFlow (s : Scanner) (t : Token) : Option Scanner := do
  let s ← s.dropKey
  let keys := if s.inFlow then s.keys.drop 1 else s.keys
  return ({ s with keys }.allowKey false).take 1 t

def flowEntry (s : Scanner) : Option Scanner := do
  let s ← s.dropKey
  return (s.allowKey true).take 1 .flowEntry

def blockEntry (s : Scanner) : Option Scanner := do
  if !s.inFlow && !s.keyAllowed then none
  else
    let s ← (s.openBlock s.cursor.column none .blockSequence).dropKey
    return (s.allowKey true).take 1 .blockEntry

def explicitKey (s : Scanner) : Option Scanner := do
  if !s.inFlow && !s.keyAllowed then none
  else
    let s ← (s.openBlock s.cursor.column none .blockMapping).dropKey
    return (s.allowKey !s.inFlow).take 1 .key

def valueMark (s : Scanner) : Option Scanner := do
  match ← s.openKey with
  | some k =>
    let s := (s.insert k.position .key).openBlock k.cursor.column (some k.position) .blockMapping
    return ({ s with keys := none :: s.keys.drop 1 }.allowKey false).take 1 .value
  | none =>
    if !s.inFlow && !s.keyAllowed then none
    else
      let s := s.openBlock s.cursor.column none .blockMapping
      return (s.allowKey !s.inFlow).take 1 .value

def isNameChar (c : Char) : Bool :=
  c.isAlphanum || c == '_' || c == '-'

/-- A name may end before this character. -/
def endsName (c : Option Char) : Bool :=
  endsWord c || c.any fun x => x ∈ ['?', ':', ',', ']', '\x7d', '%', '@', Char.ofNat 0x60]

def named (s : Scanner) (make : String → Token) : Option Scanner := do
  let s ← s.noteKey
  let name := (s.cursor.rest.drop 1).takeWhile isNameChar
  if name.isEmpty || !endsName (s.cursor.ahead (name.length + 1)) then none
  else return (s.allowKey false).take (name.length + 1) (make (String.ofList name))

def isTagChar (c : Char) : Bool :=
  isNameChar c || c ∈ [';', '/', '?', ':', '@', '&', '=', '+', '$', '.', '!', '~', '*', '\'', '(',
    ')', '%']

/-- The handle and the rest of a tag, and how many characters it takes. -/
def tag? (cs : List Char) : Option (String × String × Nat) :=
  match cs with
  | '!' :: '<' :: cs =>
    let uri := cs.takeWhile fun c => isTagChar c || c ∈ [',', '[', ']']
    if uri.isEmpty || (cs.drop uri.length).head? != some '>' then none
    else some ("", String.ofList uri, uri.length + 3)
  | _ =>
    let body := cs.drop 1
    let name := body.takeWhile isNameChar
    if (body.drop name.length).head? == some '!' then
      let rest := (body.drop (name.length + 1)).takeWhile isTagChar
      if rest.isEmpty then none
      else
        some (String.ofList ('!' :: name ++ ['!']), String.ofList rest,
          name.length + rest.length + 2)
    else
      let rest := body.takeWhile isTagChar
      if rest.isEmpty then some ("", "!", 1) else some ("!", String.ofList rest, rest.length + 1)

def tagged (s : Scanner) : Option Scanner := do
  let s ← s.noteKey
  let (handle, rest, width) ← tag? s.cursor.rest
  let next := s.cursor.ahead width
  if endsWord next || (s.inFlow && next == some ',') then
    return (s.allowKey false).take width (.tag handle rest)
  else none

def blockScalar (s : Scanner) (fold : Bool) : Option Scanner := do
  let s ← s.dropKey
  let (text, next) ← block? fold s.column s.cursor
  let style := if fold then Style.folded else Style.literal
  return ({ s with cursor := next }.allowKey true).push (.scalar style (String.ofList text))

def quotedScalar (s : Scanner) (double : Bool) : Option Scanner := do
  let s ← s.noteKey
  let (text, next) ← quoted? double s.cursor
  let style := if double then Style.doubleQuoted else Style.singleQuoted
  return ({ s with cursor := next }.allowKey false).push (.scalar style (String.ofList text))

def plainScalar (s : Scanner) : Option Scanner := do
  let s ← s.noteKey
  let r ← plain? s.inFlow (s.column + 1).toNat s.cursor
  return ({ s with cursor := r.next }.allowKey r.brokenOff).push
    (.scalar .plain (String.ofList r.text))

/-- The words of a line without its comment. -/
def lineWords (line : List Char) : List (List Char) :=
  ((Text.pieces isGap line).filter (· ≠ [])).takeWhile fun word => word.head? != some '#'

def version? (word : List Char) : Option Token := do
  let major := word.takeWhile Text.isDigit
  match word.drop major.length with
  | '.' :: minor =>
    return .version (← Text.natural? 10 major) (← Text.natural? 10 minor)
  | _ => none

def directive? (line : List Char) : Option Token :=
  match lineWords (line.drop 1) with
  | [name, word] => if String.ofList name = "YAML" then version? word else none
  | [name, handle, replaced] =>
    if String.ofList name = "TAG" then
      some (.tagDirective (String.ofList handle) (String.ofList replaced))
    else none
  | _ => none

def directive (s : Scanner) : Option Scanner := do
  let s ← s.leaveDocument
  let line := s.cursor.rest.takeWhile fun x => !isBreak x
  let t ← directive? line
  return s.take line.length t

/-- A character with which a plain scalar cannot start. -/
def isIndicator (c : Char) : Bool :=
  c ∈ ['-', '?', ':', ',', '[', ']', '\x7b', '\x7d', '#', '&', '*', '!', '|', '>', '\'', '"', '%', '@',
    Char.ofNat 0x60]

/-- A plain scalar can start with these characters. -/
def startsPlain (s : Scanner) (c : Char) (next : Option Char) : Bool :=
  !(endsWord (some c) || isIndicator c) || (c == '-' && !next.any isGap) ||
    (!s.inFlow && (c == '?' || c == ':') && !endsWord next)

/-- The next token, which starts with a character. -/
def token (s : Scanner) (c : Char) : Option Scanner :=
  let next := s.cursor.ahead 1
  let top := s.cursor.column = 0
  if top && c == '%' then s.directive
  else if s.cursor.atMark ['-', '-', '-'] then s.leaveDocument.map (·.take 3 .documentStart)
  else if s.cursor.atMark ['.', '.', '.'] then s.leaveDocument.map (·.take 3 .documentEnd)
  else if c == '[' then s.openFlow .flowSequence
  else if c == '\x7b' then s.openFlow .flowMapping
  else if c == ']' then s.closeFlow .flowSequenceEnd
  else if c == '\x7d' then s.closeFlow .flowMappingEnd
  else if c == ',' then s.flowEntry
  else if c == '-' && endsWord next then s.blockEntry
  else if c == '?' && (s.inFlow || endsWord next) then s.explicitKey
  else if c == ':' && (s.inFlow || endsWord next) then s.valueMark
  else if c == '*' then s.named .alias
  else if c == '&' then s.named .anchor
  else if c == '!' then s.tagged
  else if c == '|' && !s.inFlow then s.blockScalar false
  else if c == '>' && !s.inFlow then s.blockScalar true
  else if c == '\'' then s.quotedScalar false
  else if c == '"' then s.quotedScalar true
  else if s.startsPlain c next then s.plainScalar
  else none

def readAll (s : Scanner) : Nat → Option Scanner
  | 0 => none
  | fuel + 1 =>
    let s := s.toNextToken (s.cursor.rest.length + 1)
    let s := s.closeBlocks s.cursor.column
    match s.cursor.next with
    | none => s.leaveDocument
    | some c => (s.token c).bind fun s => readAll s fuel

end Scanner

def tokens? (text : String) : Option (List Token) :=
  let cs := text.toList
  if cs.all isAllowed then
    ((Scanner.start cs).readAll (cs.length + 1)).map (·.tokens.toList)
  else none

end AnomalyWatch.Yaml
