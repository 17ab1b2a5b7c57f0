import AnomalyWatch.Text.Digits

/-!
The fields of a cron expression: their ranges, their names and the items a field may list.
-/

set_option autoImplicit false
set_option relaxedAutoImplicit false

namespace AnomalyWatch.Cron

/-- The fields of a cron expression, in their order. -/
inductive Field
  | second | minute | hour | dayOfMonth | month | dayOfWeek | year
  deriving DecidableEq, Repr

/-- The numbers a part of an item stands for. -/
inductive Span
  | all
  | point (n : Nat)
  | numbers (first last : Nat)
  | names (first last : String)

/-- One item of the comma-separated list in a field. -/
inductive Item
  | plain (span : Span)
  | stepped (span : Span) (step : Nat)
  | name (name : String)

namespace Field

def least : Field → Nat
  | second | minute | hour => 0
  | dayOfMonth | month | dayOfWeek => 1
  | year => 1970

def greatest : Field → Nat
  | second | minute => 59
  | hour => 23
  | dayOfMonth => 31
  | month => 12
  | dayOfWeek => 7
  | year => 2100

/-- In these fields a question mark means every value. -/
def takesQuestionMark : Field → Bool
  | dayOfMonth | dayOfWeek => true
  | _ => false

/-- Names that stand for a value, in lower case. -/
def names : Field → List (String × Nat)
  | month => [
    ("jan", 1), ("january", 1), ("feb", 2), ("february", 2), ("mar", 3), ("march", 3),
    ("apr", 4), ("april", 4), ("may", 5), ("jun", 6), ("june", 6), ("jul", 7), ("july", 7),
    ("aug", 8), ("august", 8), ("sep", 9), ("september", 9), ("oct", 10), ("october", 10),
    ("nov", 11), ("november", 11), ("dec", 12), ("december", 12)]
  | dayOfWeek => [
    ("sun", 1), ("sunday", 1), ("mon", 2), ("monday", 2), ("tue", 3), ("tues", 3),
    ("tuesday", 3), ("wed", 4), ("wednesday", 4), ("thu", 5), ("thurs", 5), ("thursday", 5),
    ("fri", 6), ("friday", 6), ("sat", 7), ("saturday", 7)]
  | _ => []

/-- Every value of a field, ascending. -/
def all (f : Field) : List Nat :=
  List.range' f.least (f.greatest + 1 - f.least)

def value? (f : Field) (n : Nat) : Option Nat :=
  if f.least ≤ n ∧ n ≤ f.greatest then some n else none

/-- The value a name stands for, in any case. -/
def named? (f : Field) (name : String) : Option Nat :=
  f.names.lookup (String.ofList (name.toList.map Char.toLower))

/-- The values from one to another; they have to ascend and lie in the range. -/
def between? (f : Field) (first last : Nat) : Option (List Nat) := do
  let first ← f.value? first
  let last ← f.value? last
  if first ≤ last then some (List.range' first (last + 1 - first)) else none

def span? (f : Field) : Span → Option (List Nat)
  | .all => some f.all
  | .point n => (f.value? n).map fun n => [n]
  | .numbers first last => f.between? first last
  | .names first last => do f.between? (← f.named? first) (← f.named? last)

/-- Every so many of the values, starting with the first. -/
def everyNth (step : Nat) (ns : List Nat) : List Nat :=
  (ns.zipIdx.filter fun e => e.2 % step = 0).map Prod.fst

/-- The values of an item. A point before a step starts a run to the end of the range. -/
def item? (f : Field) : Item → Option (List Nat)
  | .plain span => f.span? span
  | .stepped span step =>
    if step = 0 ∨ f.greatest < step then none
    else
      let base :=
        match span with
        | .point n => f.between? n f.greatest
        | span => f.span? span
      base.map (everyNth step)
  | .name name => (f.named? name).map fun n => [n]

/-- The values of a list of items as an ascending list without repetitions. -/
def values? (f : Field) (items : List Item) : Option (List Nat) := do
  let ns := (← items.mapM f.item?).flatten
  return f.all.filter (· ∈ ns)

end Field

end AnomalyWatch.Cron
