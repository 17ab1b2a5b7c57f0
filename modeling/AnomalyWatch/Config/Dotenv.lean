import AnomalyWatch.Config.Environment
import AnomalyWatch.Text.Blank

/-!
Files that define environment variables, one `NAME=value` on a line.

A value may be quoted: in single quotes everything stands for itself, in double quotes and outside of quotes a
backslash escapes and a dollar sign names a variable. Quotes may span lines. Variables that are defined already keep
their values, and the first line that cannot be read ends the file.
-/

set_option autoImplicit false
set_option relaxedAutoImplicit false

namespace AnomalyWatch.Dotenv

/-! ### Lines -/

/-- Where in a line a character stands, as far as quotes and comments are concerned. -/
inductive Mode
  | outside
  /-- Behind a blank, where a comment may start. -/
  | blank
  | escape
  | single
  | singleEscape
  | double
  | doubleEscape
  deriving DecidableEq, Repr

def Mode.opened (c : Char) : Mode :=
  match c with
  | '\\' => .escape
  | '"' => .double
  | '\'' => .single
  | _ => .outside

def Mode.next (m : Mode) (c : Char) : Mode :=
  match m with
  | .outside => if Text.isBlank c && c != '\n' && c != '\r' then .blank else .opened c
  | .blank => .opened c
  | .escape => .outside
  | .single => if c == '\\' then .singleEscape else if c == '\'' then .outside else .single
  | .singleEscape => .single
  | .double => if c == '\\' then .doubleEscape else if c == '"' then .outside else .double
  | .doubleEscape => .double

/-- The text up to a comment, and where it leads; no mode if there is a comment. -/
def scan (m : Mode) : List Char → List Char × Option Mode
  | [] => ([], some m)
  | c :: cs =>
    if m = .blank && c == '#' then ([], none)
    else
      let r := scan (m.next c) cs
      (c :: r.1, r.2)

/-- A line with its line end, and the rest of a text. -/
def cutLine : List Char → List Char × List Char
  | [] => ([], [])
  | c :: cs => if c == '\n' then ([c], cs) else let r := cutLine cs; (c :: r.1, r.2)

theorem length_cutLine (cs : List Char) : (cutLine cs).2.length ≤ cs.length := by
  induction cs with
  | nil => simp [cutLine]
  | cons c cs ih =>
    simp only [cutLine]
    split
    · simp
    · exact Nat.le_succ_of_le ih

theorem length_cutLine_cons (c : Char) (cs : List Char) :
    (cutLine (c :: cs)).2.length < (c :: cs).length := by
  simp only [cutLine]
  split
  · simp
  · exact Nat.lt_succ_of_le (length_cutLine cs)

def startsComment (cs : List Char) : Bool :=
  (Text.trimStart cs).head? == some '#'

/-- The entries of a text, where lines within quotes belong together. A quote that is never closed makes the last
entry unreadable. -/
def entries (before : List Char) (m : Mode) (cs : List Char) : List (Option (List Char)) :=
  match cs with
  | [] => if m = .outside then [] else [none]
  | c :: rest =>
    let line := (cutLine (c :: rest)).1
    let after := (cutLine (c :: rest)).2
    if startsComment (before ++ line) then entries [] .outside after
    else
      match scan m line with
      | (text, none) => some (before ++ text) :: entries [] .outside after
      | (text, some .outside) => some (before ++ text) :: entries [] .outside after
      | (text, some m) => entries (before ++ text) m after
termination_by cs.length
decreasing_by all_goals exact length_cutLine_cons c rest

/-! ### Values -/

/-- Where in a value a character stands. -/
inductive Place
  | text
  | escape
  | single
  /-- In the name of a variable. -/
  | named (name : List Char)
  /-- In the name of a variable between braces. -/
  | braced (name : List Char)
  /-- Behind the value. -/
  | behind
  | comment
  deriving DecidableEq, Repr

/-- A value that has been read in part. -/
structure Draft where
  value : List Char
  /-- In double quotes. -/
  double : Bool
  place : Place

namespace Draft

/-- Add the value of a variable; one that is not defined adds nothing. -/
def substitute (e : Environment) (p : Draft) (name : List Char) : Draft :=
  { p with value := p.value ++ ((e.get? (String.ofList name)).getD "").toList, place := .text }

def add (p : Draft) (c : Char) : Draft :=
  { p with value := p.value ++ [c], place := .text }

def plain (p : Draft) (c : Char) : Draft :=
  match c with
  | '$' => { p with place := .named [] }
  | '\\' => { p with place := .escape }
  | '"' => { p with double := !p.double }
  | '\'' => if p.double then p.add c else { p with place := .single }
  | c => if !p.double && (c == ' ' || c == '\t') then { p with place := .behind } else p.add c

/-- Read one more character; there is no result where none may stand. -/
def next? (e : Environment) (p : Draft) (c : Char) : Option Draft :=
  match p.place with
  | .comment => some p
  | .behind =>
    if c == ' ' || c == '\t' then some p
    else if c == '#' then some { p with place := .comment }
    else none
  | .escape =>
    if ['\\', '\'', '"', '$', ' '].contains c then some (p.add c)
    else if c == 'n' then some (p.add '\n')
    else none
  | .single => some (if c == '\'' then { p with place := .text } else { p with value := p.value ++ [c] })
  | .named name =>
    if c.isAlphanum then some { p with place := .named (name ++ [c]) }
    else if c == '\x7b' && name.isEmpty then some { p with place := .braced [] }
    else
      let p := p.substitute e name
      some (if c == '$' then { p with place := .named [] } else p.add c)
  | .braced name =>
    some (if c == '\x7d' then p.substitute e name else { p with place := .braced (name ++ [c]) })
  | .text => some (p.plain c)

/-- The value, if its quotes and braces are closed. -/
def finish? (e : Environment) (p : Draft) : Option String :=
  if p.double then none
  else
    match p.place with
    | .single | .braced _ => none
    | .named name => some (String.ofList (p.substitute e name).value)
    | _ => some (String.ofList p.value)

end Draft

def value? (e : Environment) (cs : List Char) : Option String :=
  if cs.isEmpty || cs.head? == some '#' then some ""
  else (cs.foldlM (Draft.next? e) ⟨[], false, .text⟩).bind (Draft.finish? e)

/-! ### Definitions -/

def isNameChar (c : Char) : Bool := c.isAlphanum || c == '_' || c == '.'

/-- The name at the start of a text, and what follows it and the blanks behind it. -/
def name? (cs : List Char) : Option (List Char × List Char) :=
  match cs with
  | c :: _ =>
    if c.isAlpha || c == '_' then
      some (cs.takeWhile isNameChar, Text.trimStart (cs.dropWhile isNameChar))
    else none
  | [] => none

def behindEquals? : List Char → Option (List Char)
  | '=' :: cs => some cs
  | _ => none

/-- The name of a definition, where the word `export` may stand in front, and the text of its value. -/
def definition? (cs : List Char) : Option (List Char × List Char) := do
  let (name, rest) ← name? cs
  match behindEquals? rest with
  | some value => return (name, value)
  | none =>
    if name = "export".toList then
      let (name, rest) ← name? rest
      return (name, ← behindEquals? rest)
    else none

def define? (e : Environment) (cs : List Char) : Option Environment :=
  let cs := Text.trimChars cs
  if cs.isEmpty || cs.head? == some '#' then some e
  else do
    let (name, rest) ← definition? cs
    return e.define (String.ofList name) (← value? e (Text.trimStart rest))

/-- Carry out entries up to the first that cannot be read. -/
def defineAll (e : Environment) : List (Option (List Char)) → Environment
  | some cs :: rest =>
    match define? e cs with
    | some e => defineAll e rest
    | none => e
  | _ => e

def load (e : Environment) (text : String) : Environment :=
  let cs := text.toList
  defineAll e (entries [] .outside (if cs.head? == some '\uFEFF' then cs.drop 1 else cs))

end AnomalyWatch.Dotenv
