/-!
A place in a YAML document, with its line and column.
-/

set_option autoImplicit false
set_option relaxedAutoImplicit false

namespace AnomalyWatch.Yaml

def isGap (c : Char) : Bool :=
  c == ' ' || c == '\t'

def isBreak (c : Char) : Bool :=
  let n := c.toNat
  n == 0x0A || n == 0x0D || n == 0x85 || n == 0x2028 || n == 0x2029

/-- A gap, a line break, or the end of the document. -/
def endsWord : Option Char → Bool
  | none => true
  | some c => isGap c || isBreak c

/-- Characters that may stand in a document at all: no control characters but tabs and line breaks. -/
def isAllowed (c : Char) : Bool :=
  let n := c.toNat
  n == 0x09 || n == 0x0A || n == 0x0D || (0x20 ≤ n && n ≤ 0x7E) || n == 0x85 ||
    (0xA0 ≤ n && n ≤ 0xFFFD) || 0x10000 ≤ n

/-- The text from a place on, and where the place is. -/
structure Cursor where
  rest : List Char
  /-- The number of characters before the place. -/
  index : Nat
  line : Nat
  column : Nat

namespace Cursor

/-- The start of a document; a byte order mark there does not count. -/
def start (cs : List Char) : Cursor :=
  match cs with
  | [] => ⟨[], 0, 0, 0⟩
  | c :: rest => if c.toNat = 0xFEFF then ⟨rest, 1, 0, 1⟩ else ⟨cs, 0, 0, 0⟩

def ahead (c : Cursor) (n : Nat) : Option Char :=
  c.rest[n]?

def next (c : Cursor) : Option Char :=
  c.rest.head?

/-- The next character is this one. -/
def at? (c : Cursor) (x : Char) : Bool :=
  c.next == some x

def skip (c : Cursor) (n : Nat) : Cursor :=
  { c with rest := c.rest.drop n, index := c.index + n, column := c.column + n }

/-- Step over the line break at the place; what it reads as comes with it. -/
def lineBreak? (c : Cursor) : Option (Char × Cursor) :=
  match c.rest with
  | '\r' :: '\n' :: rest => some ('\n', ⟨rest, c.index + 2, c.line + 1, 0⟩)
  | b :: rest =>
    if isBreak b then
      let read := if b.toNat = 0x2028 || b.toNat = 0x2029 then b else '\n'
      some (read, ⟨rest, c.index + 1, c.line + 1, 0⟩)
    else none
  | [] => none

/-- A line with nothing but the mark of a document starts here. -/
def atMark (c : Cursor) (mark : List Char) : Bool :=
  c.column = 0 && mark.isPrefixOf c.rest && endsWord (c.ahead mark.length)

def atDocumentMark (c : Cursor) : Bool :=
  c.atMark ['-', '-', '-'] || c.atMark ['.', '.', '.']

end Cursor

end AnomalyWatch.Yaml
