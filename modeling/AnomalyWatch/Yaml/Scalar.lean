import AnomalyWatch.Text.Digits
import AnomalyWatch.Yaml.Cursor

/-!
The texts of YAML scalars: plain, quoted and in blocks.

In a text of several lines a single line break reads as a space and further ones stand for themselves; literal
blocks keep every break. All recursion is bounded by the length of the document.
-/

set_option autoImplicit false
set_option relaxedAutoImplicit false

namespace AnomalyWatch.Yaml

/-- How a scalar is written. -/
inductive Style
  | plain | singleQuoted | doubleQuoted | literal | folded
  deriving DecidableEq, Repr

/-- The gap between two words of a scalar. -/
structure Gap where
  /-- The spaces and tabs before the first line break. -/
  spaces : List Char
  breaks : List Char
  next : Cursor

namespace Gap

def folded : List Char → List Char
  | ['\n'] => [' ']
  | '\n' :: more => more
  | breaks => breaks

def text (g : Gap) : List Char :=
  if g.breaks.isEmpty then g.spaces else folded g.breaks

/-- The gap at a place. A tab left of the column `indent` on a later line is an error. -/
def read? (indent : Nat) : Nat → List Char → List Char → Cursor → Option Gap
  | 0, _, _, _ => none
  | fuel + 1, spaces, breaks, c =>
    match c.next with
    | none => some ⟨spaces, breaks, c⟩
    | some x =>
      if isGap x then
        if breaks.isEmpty then read? indent fuel (spaces ++ [x]) breaks (c.skip 1)
        else if x == '\t' && c.column < indent then none
        else read? indent fuel spaces breaks (c.skip 1)
      else
        match c.lineBreak? with
        | some (b, next) => read? indent fuel spaces (breaks ++ [b]) next
        | none => some ⟨spaces, breaks, c⟩

end Gap

/-- The gap at a place, with no rule on indentation. -/
def gap? (c : Cursor) : Option Gap :=
  Gap.read? 0 (c.rest.length + 1) [] [] c

/-! ### Plain scalars -/

/-- Marks that end a plain scalar inside brackets. -/
def isFlowMark (c : Char) : Bool :=
  c == ',' || c == '[' || c == ']' || c == '\x7b' || c == '\x7d'

/-- The characters of a plain scalar up to a gap or a mark. Inside brackets a colon right before a mark is an
error. -/
def plainWord? (flow : Bool) : List Char → Option (List Char)
  | [] => some []
  | ':' :: cs =>
    let next := cs.head?
    if flow && next.any fun d => isFlowMark d || d == '?' then none
    else if endsWord next then some []
    else (plainWord? flow cs).map (':' :: ·)
  | c :: cs =>
    if isGap c || isBreak c || (flow && isFlowMark c) then some []
    else (plainWord? flow cs).map (c :: ·)

/-- A scalar that was read, and what follows it. -/
structure Reading where
  text : List Char
  next : Cursor
  /-- A line break stands between the scalar and what follows. -/
  brokenOff : Bool

/-- Read on in a plain scalar, of which `text` and a gap have been read. -/
def plainFrom? (flow : Bool) (indent : Nat) : Nat → List Char → Option Gap → Cursor → Option Reading
  | 0, _, _, _ => none
  | fuel + 1, text, before, c =>
    let broken := before.any fun g => !g.breaks.isEmpty
    if c.atDocumentMark || c.at? '#' then some ⟨text, c, broken⟩
    else do
      let word ← plainWord? flow c.rest
      let joined := if word.isEmpty then text else text ++ (before.elim [] Gap.text) ++ word
      let broken := broken && word.isEmpty
      let c := c.skip word.length
      match c.next with
      | none => return ⟨joined, c, broken⟩
      | some x =>
        if isGap x || isBreak x then
          let g ← Gap.read? indent (c.rest.length + 1) [] [] c
          if !flow && g.next.column < indent then
            return ⟨joined, g.next, broken || !g.breaks.isEmpty⟩
          else plainFrom? flow indent fuel joined (some g) g.next
        else return ⟨joined, c, broken⟩

/-- The plain scalar at a place; lines after the first have to reach the column `indent`. -/
def plain? (flow : Bool) (indent : Nat) (c : Cursor) : Option Reading :=
  plainFrom? flow indent (c.rest.length + 1) [] none c

/-! ### Quoted scalars -/

def shortEscape? : Char → Option Char
  | '0' => some '\x00'
  | 'a' => some '\x07'
  | 'b' => some '\x08'
  | 't' => some '\t'
  | '\t' => some '\t'
  | 'n' => some '\n'
  | 'v' => some '\x0b'
  | 'f' => some '\x0c'
  | 'r' => some '\r'
  | 'e' => some '\x1b'
  | ' ' => some ' '
  | '"' => some '"'
  | '/' => some '/'
  | '\\' => some '\\'
  | 'N' => some (Char.ofNat 0x85)
  | '_' => some (Char.ofNat 0xA0)
  | 'L' => some (Char.ofNat 0x2028)
  | 'P' => some (Char.ofNat 0x2029)
  | _ => none

/-- The number of hexadecimal digits after an escape letter. -/
def codeWidth? : Char → Option Nat
  | 'x' => some 2
  | 'u' => some 4
  | 'U' => some 8
  | _ => none

/-- The character an escape names, and how many characters the escape takes after its backslash. -/
def escape? (cs : List Char) : Option (Char × Nat) := do
  let letter ← cs.head?
  match codeWidth? letter with
  | some width =>
    let digits := (cs.drop 1).take width
    if digits.length < width then none
    else
      let n ← Text.natural? 16 digits
      if h : n.isValidChar then some (Char.ofNatAux n h, width + 1) else none
  | none => (shortEscape? letter).map fun c => (c, 1)

/-- The words and escapes of a quoted scalar up to a gap or the closing quote; tells whether an escaped line
break ended them. -/
def quotedWord? (double : Bool) : Nat → Cursor → Option (List Char × Bool × Cursor)
  | 0, _ => none
  | fuel + 1, c =>
    let quote := if double then '"' else '\''
    match c.rest with
    | [] => some ([], false, c)
    | x :: cs =>
      if isGap x || isBreak x then some ([], false, c)
      else if !double && x == '\'' && cs.head? == some '\'' then
        (quotedWord? double fuel (c.skip 2)).map fun r => ('\'' :: r.1, r.2)
      else if x == quote then some ([], false, c)
      else if double && x == '\\' then
        match (c.skip 1).lineBreak? with
        | some (_, next) => some ([], true, next)
        | none => do
          let (y, width) ← escape? cs
          let r ← quotedWord? double fuel (c.skip (width + 1))
          return (y :: r.1, r.2)
      else (quotedWord? double fuel (c.skip 1)).map fun r => (x :: r.1, r.2)

/-- What the gap after a word of a quoted scalar reads as, when an escaped line break may stand before it. -/
def quotedGap (escaped : Bool) (g : Gap) : List Char :=
  if escaped then g.breaks else g.text

/-- Read on in a quoted scalar, of which `text` has been read. -/
def quotedFrom? (double : Bool) : Nat → List Char → Cursor → Option (List Char × Cursor)
  | 0, _, _ => none
  | fuel + 1, text, c =>
    if c.atDocumentMark || c.rest.isEmpty then none
    else do
      let (word, escaped, c) ← quotedWord? double (c.rest.length + 1) c
      let text := text ++ word
      if c.at? (if double then '"' else '\'') then return (text, c.skip 1)
      else
        let g ← gap? c
        quotedFrom? double fuel (text ++ quotedGap escaped g) g.next

def quoted? (double : Bool) (c : Cursor) : Option (List Char × Cursor) :=
  quotedFrom? double (c.rest.length + 1) [] (c.skip 1)

/-! ### Block scalars -/

/-- What becomes of the line breaks at the end of a block. -/
inductive Chomping
  | strip | clip | keep
  deriving DecidableEq

/-- The head of a block scalar: chomping and indentation. -/
structure BlockHead where
  chomping : Chomping
  /-- The written indentation, none if it follows from the first line. -/
  increment : Option Nat

def chomping? : Char → Option Chomping
  | '+' => some .keep
  | '-' => some .strip
  | _ => none

/-- The indentation that a digit asks for; zero is none. -/
def increment? (c : Char) : Option Nat :=
  (Text.digitValue? 10 c).filter (0 < ·)

/-- The head of a block scalar, and how many characters it takes. -/
def blockHead (cs : List Char) : BlockHead × Nat :=
  match cs.head?.bind chomping? with
  | some chomping =>
    match (cs.drop 1).head?.bind increment? with
    | some n => (⟨chomping, some n⟩, 2)
    | none => (⟨chomping, none⟩, 1)
  | none =>
    match cs.head?.bind increment? with
    | some n =>
      match (cs.drop 1).head?.bind chomping? with
      | some chomping => (⟨chomping, some n⟩, 2)
      | none => (⟨.clip, some n⟩, 1)
    | none => (⟨.clip, none⟩, 0)

/-- Step over gaps and a comment up to the end of the line. -/
def lineEnd? (c : Cursor) : Option Cursor :=
  let c := c.skip (c.rest.takeWhile isGap).length
  let c := if c.at? '#' then c.skip (c.rest.takeWhile fun x => !isBreak x).length else c
  match c.next with
  | none => some c
  | some _ => c.lineBreak?.map (·.2)

/-- The indentation of a block whose first line has been reached: what was written, or the widest of the lines
up to there, but at least `least`. -/
def blockIndent (least widest : Nat) : Option Nat → Nat
  | some written => written
  | none => max widest least

/-- Step over the indentation and the empty lines of a block: the breaks, the greatest column reached, and the
place. Without a known indentation every space counts as indentation. -/
def blockGap? (indent : Option Nat) : Nat → List Char → Nat → Cursor → Option (List Char × Nat × Cursor)
  | 0, _, _, _ => none
  | fuel + 1, breaks, widest, c =>
    let spaces := (c.rest.takeWhile (· == ' ')).length
    let c := c.skip (match indent with
      | none => spaces
      | some n => min spaces (n - c.column))
    let widest := max widest c.column
    if c.at? '\t' && indent.all (c.column < ·) then none
    else
      match c.lineBreak? with
      | some (b, next) => blockGap? indent fuel (breaks ++ [b]) widest next
      | none => some (breaks, widest, c)

/-- The lines of a block from a place in its first column on. `lead` is the break before the line and `more`
are the breaks after that one. -/
def blockLines? (fold : Bool) (indent : Nat) :
    Nat → List Char → List Char → List Char → Bool → Cursor →
      Option (List Char × List Char × List Char × Cursor)
  | 0, _, _, _, _, _ => none
  | fuel + 1, text, lead, more, wasIndented, c =>
    if c.column = indent && !c.rest.isEmpty then
      let isIndented := c.next.any isGap
      let join :=
        if fold && lead == ['\n'] && !wasIndented && !isIndented then
          if more.isEmpty then [' '] else more
        else lead ++ more
      let line := c.rest.takeWhile fun x => !isBreak x
      let c := c.skip line.length
      let text := text ++ join ++ line
      match c.lineBreak? with
      | none => some (text, [], [], c)
      | some (b, next) => do
        let (more, _, c) ← blockGap? (some indent) (next.rest.length + 1) [] 0 next
        blockLines? fold indent fuel text [b] more isIndented c
    else some (text, lead, more, c)

/-- The block scalar at a place, inside a block whose column is `outer`. -/
def block? (fold : Bool) (outer : Int) (c : Cursor) : Option (List Char × Cursor) := do
  let (head, width) := blockHead (c.rest.drop 1)
  let c ← lineEnd? (c.skip (width + 1))
  let written := head.increment.map fun n => if 0 ≤ outer then outer.toNat + n else n
  let least := max 1 (outer + 1).toNat
  let (more, widest, c) ← blockGap? written (c.rest.length + 1) [] 0 c
  let indent := blockIndent least widest written
  let (text, lead, more, c) ← blockLines? fold indent (c.rest.length + 1) [] [] more false c
  let tail := match head.chomping with
    | .strip => []
    | .clip => lead
    | .keep => lead ++ more
  return (text ++ tail, c)

end AnomalyWatch.Yaml
