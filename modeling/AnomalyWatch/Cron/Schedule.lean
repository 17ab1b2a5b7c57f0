import AnomalyWatch.Cron.Field
import AnomalyWatch.Error
import AnomalyWatch.Text.Blank

/-!
Cron expressions: six or seven fields, or a name for a common schedule.

An expression is first normalized: it is trimmed, and five fields get a seconds field `0` in front. Blanks
between fields are only needed where two fields would run together.
-/

set_option autoImplicit false
set_option relaxedAutoImplicit false

namespace AnomalyWatch

/-- The seconds at which something happens, as the values of each field. -/
structure Schedule where
  seconds : List Nat
  minutes : List Nat
  hours : List Nat
  daysOfMonth : List Nat
  months : List Nat
  daysOfWeek : List Nat
  years : List Nat
  deriving DecidableEq, Repr

namespace Cron

open AnomalyWatch.Text (isDigit digitsValue)

/-- The blanks inside a cron expression. -/
def isGap (c : Char) : Bool :=
  c == ' ' || c == '\t' || c == '\r' || c == '\n'

/-- The text after its blanks. -/
def skipGap (cs : List Char) : List Char :=
  cs.dropWhile isGap

/-- An ASCII letter. -/
def isLetter (c : Char) : Bool :=
  let n := c.toNat
  (65 ≤ n && n ≤ 90) || (97 ≤ n && n ≤ 122)

/-- A number of 32 bits with blanks around it. -/
def number? (cs : List Char) : Option (Nat × List Char) :=
  let cs := skipGap cs
  let ds := cs.takeWhile isDigit
  if ds.isEmpty || 0x100000000 ≤ digitsValue ds then none
  else some (digitsValue ds, skipGap (cs.dropWhile isDigit))

/-- A name with blanks around it. -/
def name? (cs : List Char) : Option (String × List Char) :=
  let cs := skipGap cs
  let letters := cs.takeWhile isLetter
  if letters.isEmpty then none
  else some (String.ofList letters, skipGap (cs.dropWhile isLetter))

/-- The text after a mark it has to start with. -/
def mark? (c : Char) : List Char → Option (List Char)
  | [] => none
  | d :: ds => if d = c then some ds else none

/-- A range of numbers, a number, or a range of names. -/
def bounded? (cs : List Char) : Option (Span × List Char) :=
  match number? cs with
  | some (first, rest) =>
    match (mark? '-' rest).bind number? with
    | some (last, rest) => some (.numbers first last, rest)
    | none => some (.point first, rest)
  | none => do
    let (first, rest) ← name? cs
    let (last, rest) ← (mark? '-' rest).bind name?
    return (.names first last, rest)

def span? (f : Field) (cs : List Char) : Option (Span × List Char) :=
  match cs with
  | '*' :: rest => some (.all, rest)
  | '?' :: rest => if f.takesQuestionMark then some (.all, rest) else none
  | cs => bounded? cs

/-- An item: a span with a step, a span, or a name. -/
def item? (f : Field) (cs : List Char) : Option (Item × List Char) :=
  match span? f cs with
  | some (span, rest) =>
    match (mark? '/' rest).bind number? with
    | some (step, rest) => some (.stepped span step, rest)
    | none => some (.plain span, rest)
  | none => (name? cs).map fun r => (.name r.1, r.2)

/-- The items after the first. A comma that no item follows is left in the text. -/
def moreItems (f : Field) (cs : List Char) : Nat → List Item × List Char
  | 0 => ([], cs)
  | fuel + 1 =>
    match (mark? ',' cs).bind (item? f) with
    | some (item, rest) =>
      let (items, rest) := moreItems f rest fuel
      (item :: items, rest)
    | none => ([], cs)

/-- The values of a field at the start of the text, with blanks around it. -/
def field? (f : Field) (cs : List Char) : Option (List Nat × List Char) := do
  let (first, rest) ← item? f (skipGap cs)
  let (items, rest) := moreItems f rest rest.length
  let values ← f.values? (first :: items)
  return (values, skipGap rest)

def fields? (cs : List Char) : Option Schedule := do
  let (seconds, cs) ← field? .second cs
  let (minutes, cs) ← field? .minute cs
  let (hours, cs) ← field? .hour cs
  let (daysOfMonth, cs) ← field? .dayOfMonth cs
  let (months, cs) ← field? .month cs
  let (daysOfWeek, cs) ← field? .dayOfWeek cs
  let (years, cs) := (field? .year cs).getD (Field.all .year, cs)
  if cs.isEmpty then
    some { seconds, minutes, hours, daysOfMonth, months, daysOfWeek, years }
  else none

def shorthands : List (String × Schedule) :=
  let at0 := [0]
  let hourly : Schedule := {
    seconds := at0
    minutes := at0
    hours := Field.all .hour
    daysOfMonth := Field.all .dayOfMonth
    months := Field.all .month
    daysOfWeek := Field.all .dayOfWeek
    years := Field.all .year }
  let daily := { hourly with hours := at0 }
  let monthly := { daily with daysOfMonth := [1] }
  [("@yearly", { monthly with months := [1] }), ("@monthly", monthly),
    ("@weekly", { daily with daysOfWeek := [1] }), ("@daily", daily), ("@hourly", hourly)]

/-- The schedule with this name, with blanks around it. -/
def shorthand? (cs : List Char) : Option Schedule :=
  let cs := skipGap cs
  shorthands.findSome? fun (name, schedule) =>
    if name.toList.isPrefixOf cs && (skipGap (cs.drop name.length)).isEmpty then some schedule
    else none

/-- An expression without the blanks at its ends, and with seconds when it has five fields. -/
def normalize (expression : String) : String :=
  let trimmed := Text.trim expression
  if (Text.words trimmed.toList).length = 5 then "0 " ++ trimmed else trimmed

def schedule? (normalized : String) : Option Schedule :=
  shorthand? normalized.toList <|> fields? normalized.toList

/-- The schedule of an expression, which is normalized first. -/
def parse (expression : String) : Except Error Schedule :=
  match schedule? (normalize expression) with
  | some schedule => .ok schedule
  | none => .error (.invalidCron expression)

theorem parse_eq_ok_iff {expression : String} {s : Schedule} :
    parse expression = .ok s ↔ schedule? (normalize expression) = some s := by
  unfold parse
  cases schedule? (normalize expression) with
  | none => simp
  | some t => simp

end Cron

end AnomalyWatch
