import AnomalyWatch.Json.Basic

/-!
Reading a JSON document: one value with blanks around it and nothing after it.

The recursion is bounded by the length of the text, which no nesting can exceed.
-/

set_option autoImplicit false
set_option relaxedAutoImplicit false

namespace AnomalyWatch.Json.Parser

open AnomalyWatch.Text (isDigit digitValue?)

/-- The four blanks of a JSON document. -/
def isBlank (c : Char) : Bool :=
  c == ' ' || c == '\n' || c == '\t' || c == '\r'

/-- The text after its blanks. -/
def skipBlanks (cs : List Char) : List Char :=
  cs.dropWhile isBlank

def hexUnit? (a b c d : Char) : Option Nat := do
  let a ← digitValue? 16 a
  let b ← digitValue? 16 b
  let c ← digitValue? 16 c
  let d ← digitValue? 16 d
  return ((a * 16 + b) * 16 + c) * 16 + d

def shortEscape? : Char → Option Char
  | '"' => some '"'
  | '\\' => some '\\'
  | '/' => some '/'
  | 'b' => some '\x08'
  | 'f' => some '\x0c'
  | 'n' => some '\n'
  | 'r' => some '\r'
  | 't' => some '\t'
  | _ => none

/-- A code unit of UTF-16 as it appears in an escape, or a character. -/
inductive Piece
  | character (c : Char)
  | unit (n : Nat)

/-- The pieces of a text up to its closing quote, and what follows. -/
def pieces : List Char → Option (List Piece × List Char)
  | [] => none
  | '"' :: cs => some ([], cs)
  | '\\' :: 'u' :: a :: b :: c :: d :: cs => do
    let n ← hexUnit? a b c d
    let (ps, rest) ← pieces cs
    return (.unit n :: ps, rest)
  | '\\' :: e :: cs => do
    let c ← shortEscape? e
    let (ps, rest) ← pieces cs
    return (.character c :: ps, rest)
  | c :: cs =>
    if c.toNat < 32 || c == '\\' then none
    else do
      let (ps, rest) ← pieces cs
      return (.character c :: ps, rest)

/-- The characters that pieces name; half of a surrogate pair names none. -/
def join : List Piece → Option (List Char)
  | [] => some []
  | .character c :: ps => (join ps).map (c :: ·)
  | .unit n :: ps =>
    if n < 0xD800 || 0xDFFF < n then (join ps).map (Char.ofNat n :: ·)
    else
      match ps with
      | .unit m :: ps =>
        if n ≤ 0xDBFF && 0xDC00 ≤ m && m ≤ 0xDFFF then
          (join ps).map (Char.ofNat (0x10000 + (n - 0xD800) * 0x400 + (m - 0xDC00)) :: ·)
        else none
      | _ => none

def textBody? (cs : List Char) : Option (Option String × List Char) :=
  (pieces cs).map fun r => ((join r.1).map String.ofList, r.2)

/-- Digits without a superfluous zero in front. -/
def wholePart? (cs : List Char) : Option (List Char × List Char) :=
  let ds := cs.takeWhile isDigit
  let rest := cs.dropWhile isDigit
  match ds with
  | [] => none
  | '0' :: _ :: _ => none
  | _ => some (ds, rest)

/-- The digits after a mark, at least one. -/
def someDigits? (cs : List Char) : Option (List Char × List Char) :=
  let ds := cs.takeWhile isDigit
  if ds.isEmpty then none else some (ds, cs.dropWhile isDigit)

/-- A fraction, if a point announces one. -/
def fractionPart? : List Char → Option (List Char × List Char)
  | '.' :: cs => (someDigits? cs).map fun r => ('.' :: r.1, r.2)
  | cs => some ([], cs)

/-- An exponent, if a letter announces one. -/
def exponentPart? : List Char → Option (List Char × List Char)
  | e :: cs =>
    if e == 'e' || e == 'E' then
      match cs with
      | s :: ds =>
        if s == '+' || s == '-' then (someDigits? ds).map fun r => (e :: s :: r.1, r.2)
        else (someDigits? cs).map fun r => (e :: r.1, r.2)
      | [] => none
    else some ([], e :: cs)
  | [] => some ([], [])

/-- A number literal without its sign. -/
def magnitude? (cs : List Char) : Option (List Char × List Char) := do
  let (whole, cs) ← wholePart? cs
  let (fraction, cs) ← fractionPart? cs
  let (exponent, cs) ← exponentPart? cs
  return (whole ++ fraction ++ exponent, cs)

def literal? : List Char → Option (List Char × List Char)
  | '-' :: cs => (magnitude? cs).map fun r => ('-' :: r.1, r.2)
  | cs => magnitude? cs

/-- The text after a word it has to start with. -/
def afterWord? (word cs : List Char) : Option (List Char) :=
  if word.isPrefixOf cs then some (cs.drop word.length) else none

/-- An object, where each key has characters; where one has none, a value that can only be passed over. -/
def ofMembers (members : List (Option String × Json)) : Json :=
  match members.mapM fun m => m.1.map (·, m.2) with
  | some members => .object members
  | none => .text none

theorem ofMembers_cases (members : List (Option String × Json)) :
    (∃ ms, ofMembers members = .object ms) ∨ ofMembers members = .text none := by
  unfold ofMembers
  split
  · exact .inl ⟨_, rfl⟩
  · exact .inr rfl

mutual

/-- One value at the start of the text, and what follows it. -/
def value? (fuel : Nat) (cs : List Char) : Option (Json × List Char) :=
  match fuel with
  | 0 => none
  | fuel + 1 =>
    match cs with
    | '"' :: cs => (textBody? cs).map fun r => (.text r.1, r.2)
    | '[' :: cs =>
      match skipBlanks cs with
      | ']' :: rest => some (.array [], rest)
      | cs => (items? fuel cs).map fun r => (.array r.1, r.2)
    | '\x7b' :: cs =>
      match skipBlanks cs with
      | '\x7d' :: rest => some (.object [], rest)
      | cs => (members? fuel cs).map fun r => (ofMembers r.1, r.2)
    | 'n' :: cs => (afterWord? ['u', 'l', 'l'] cs).map fun rest => (.null, rest)
    | 't' :: cs => (afterWord? ['r', 'u', 'e'] cs).map fun rest => (.bool true, rest)
    | 'f' :: cs => (afterWord? ['a', 'l', 's', 'e'] cs).map fun rest => (.bool false, rest)
    | cs => (literal? cs).map fun r => (.number r.1, r.2)

/-- One or more items up to the closing bracket. -/
def items? (fuel : Nat) (cs : List Char) : Option (List Json × List Char) :=
  match fuel with
  | 0 => none
  | fuel + 1 => do
    let (v, cs) ← value? fuel cs
    match skipBlanks cs with
    | ']' :: rest => return ([v], rest)
    | ',' :: cs =>
      let (vs, rest) ← items? fuel (skipBlanks cs)
      return (v :: vs, rest)
    | _ => none

/-- One or more members up to the closing brace. -/
def members? (fuel : Nat) (cs : List Char) : Option (List (Option String × Json) × List Char) :=
  match fuel with
  | 0 => none
  | fuel + 1 =>
    match cs with
    | '"' :: cs => do
      let (key, cs) ← textBody? cs
      match skipBlanks cs with
      | ':' :: cs =>
        let (v, cs) ← value? fuel (skipBlanks cs)
        match skipBlanks cs with
        | '\x7d' :: rest => return ([(key, v)], rest)
        | ',' :: cs =>
          let (ms, rest) ← members? fuel (skipBlanks cs)
          return ((key, v) :: ms, rest)
        | _ => none
      | _ => none
    | _ => none

end

end AnomalyWatch.Json.Parser

namespace AnomalyWatch.Json

open AnomalyWatch.Json.Parser (skipBlanks value?)

def parse? (s : String) : Option Json := do
  let cs := skipBlanks s.toList
  let (v, rest) ← value? (cs.length + 1) cs
  if (skipBlanks rest).isEmpty then some v else none

end AnomalyWatch.Json
