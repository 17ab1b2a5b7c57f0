import AnomalyWatch.Document.Format
import AnomalyWatch.Text.Digits
import AnomalyWatch.Yaml.Node

/-!
YAML as a document notation: types are lenient about texts, so a plain `5` or `true` reads as a text as
well, and strict about everything else, so a quoted number is no number.
-/

set_option autoImplicit false
set_option relaxedAutoImplicit false

namespace AnomalyWatch.Yaml

/-- The node that an alias stands for, any other node itself. -/
def Document.target (d : Document) : Node → Node
  | .alias number => (d.anchored.lookup number).getD .missing
  | n => n

/-- The text of a scalar that may be read as something else than a text: a plain one, or a literal block with
the tag of its type. -/
def typedText? (typeTag : String) : Node → Option (List Char)
  | .scalar .plain _ text => some text.toList
  | .scalar .literal (some tag) text => if tag = typeTag then some text.toList else none
  | _ => none

def hasLeadingZero : List Char → Bool
  | '0' :: c :: cs => (c :: cs).all Text.isDigit
  | _ => false

/-- An unsigned 64-bit word in decimal, or in another base after a mark. -/
def word? (cs : List Char) : Option Nat :=
  let digits := Text.dropPlus cs
  let marked :=
    match digits with
    | '0' :: 'x' :: rest => Text.natural? 16 rest
    | '0' :: 'o' :: rest => Text.natural? 8 rest
    | '0' :: 'b' :: rest => Text.natural? 2 rest
    | _ => if hasLeadingZero digits then none else Text.natural? 10 digits
  marked.filter (· ≤ Text.maxWord)

def flag? (cs : List Char) : Option Bool :=
  let s := String.ofList cs
  if s ∈ ["true", "True", "TRUE"] then some true
  else if s ∈ ["false", "False", "FALSE"] then some false
  else none

def isNullWord (s : String) : Bool :=
  s ∈ ["null", "Null", "NULL", "~"]

def nullTag : String := "tag:yaml.org,2002:null"

/-- Whether a node stands for an absent value; none where its tag says so and its text does not. -/
def absent? : Node → Option Bool
  | .scalar .plain none text => some (text.isEmpty || isNullWord text)
  | .scalar .plain (some tag) text =>
    if tag ≠ nullTag then some false else if isNullWord text then some true else none
  | _ => some false

def text? : Node → Option String
  | .scalar _ _ text => some text
  | _ => none

/-- A tag without the mark of a document's own tags. -/
def ownTag (tag : String) : String :=
  match tag.toList with
  | '!' :: name => String.ofList name
  | _ => tag

/-- A name out of several: the text of a scalar, or a tag of its own with nothing behind it. -/
def choice? : Node → Option String
  | .scalar _ none text => some text
  | .scalar .plain (some tag) text =>
    if text.isEmpty || isNullWord text then some (ownTag tag) else none
  | _ => none

namespace Document

/-- The entries of a mapping, whose keys are scalars; an empty plain scalar is a mapping without entries. -/
def entries? (d : Document) : Node → Option (List (String × Node))
  | .mapping _ entries => entries.mapM fun e => (text? (d.target e.1)).map fun k => (k, e.2)
  | .scalar .plain _ "" => some []
  | _ => none

def items? : Node → Option (List Node)
  | .sequence _ items => some items
  | _ => none

def format (d : Document) : Format Node where
  word? n := (typedText? "tag:yaml.org,2002:int" (d.target n)).bind word?
  text? n := text? (d.target n)
  choice? n := choice? (d.target n)
  flag? n := (typedText? "tag:yaml.org,2002:bool" (d.target n)).bind flag?
  absent? n := absent? (d.target n)
  entries? n := d.entries? (d.target n)
  items? n := items? (d.target n)

end Document

end AnomalyWatch.Yaml
