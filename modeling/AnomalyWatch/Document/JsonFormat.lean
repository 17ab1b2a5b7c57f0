import AnomalyWatch.Document.Format
import AnomalyWatch.Json.Number
import AnomalyWatch.Json.Parser

/-!
JSON as a document notation: types are strict, so a number in quotes is a text and nothing else.
-/

set_option autoImplicit false
set_option relaxedAutoImplicit false

namespace AnomalyWatch.Json

def text? : Json → Option String
  | .text content => content
  | _ => none

def word? : Json → Option Nat
  | .number literal => wordOf? literal
  | _ => none

/-- A name out of several: a text, or the only member of an object that has nothing behind it. -/
def choice? : Json → Option String
  | .text content => content
  | .object [(name, .null)] => some name
  | _ => none

def float? : Json → Option Float
  | .number literal => floatOf? literal
  | _ => none

def flag? : Json → Option Bool
  | .bool b => some b
  | _ => none

def isNull : Json → Bool
  | .null => true
  | _ => false

def items? : Json → Option (List Json)
  | .array vs => some vs
  | _ => none

def entries? : Json → Option (List (String × Json))
  | .object ms => some ms
  | _ => none

def texts? (j : Json) : Option (List String) := do
  (← items? j).mapM text?

def format : Format Json where
  word? := word?
  text? := text?
  choice? := choice?
  flag? := flag?
  absent? v := some (isNull v)
  entries? := entries?
  items? := items?

end AnomalyWatch.Json
