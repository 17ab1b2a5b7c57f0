import AnomalyWatch.Decimal.Layout
import AnomalyWatch.Text.Digits

/-!
JSON values and their compact written form.

A number is kept as it is written, because its value depends on what it is read as. A text that names half
of a surrogate pair has no characters; it can be passed over but not read, and so can an object with such a key.
-/

set_option autoImplicit false
set_option relaxedAutoImplicit false

namespace AnomalyWatch

/-- A JSON value. -/
inductive Json where
  | null
  | bool (value : Bool)
  | number (literal : List Char)
  | text (content : Option String)
  | array (items : List Json)
  | object (members : List (String × Json))
  deriving Inhabited

namespace Json

def ofString (s : String) : Json := .text (some s)

def ofNat (n : Nat) : Json := .number (Text.decimal n)

def ofInt (n : Int) : Json :=
  .number (if n < 0 then '-' :: Text.decimal n.natAbs else Text.decimal n.natAbs)

/-- A double; one that is not finite has no number and is null. -/
def ofFloat (x : Float) : Json :=
  if x.isFinite then .number (Decimal.write .document x).toList else .null

/-- A value that may be absent. -/
def ofOption {α : Type} (f : α → Json) : Option α → Json
  | some a => f a
  | none => .null

/-- A lower-case hexadecimal digit. -/
def hexDigit (n : Nat) : Char :=
  Nat.digitChar (n % 16)

/-- The written form of one character of a text: short escapes where there are some, a code for the other
control characters, everything else as it is. -/
def escaped (c : Char) : List Char :=
  match c with
  | '"' => ['\\', '"']
  | '\\' => ['\\', '\\']
  | '\n' => ['\\', 'n']
  | '\r' => ['\\', 'r']
  | '\t' => ['\\', 't']
  | c =>
    if c.toNat = 8 then ['\\', 'b']
    else if c.toNat = 12 then ['\\', 'f']
    else if c.toNat < 32 then ['\\', 'u', '0', '0', hexDigit (c.toNat / 16), hexDigit c.toNat]
    else [c]

def quote (s : String) : List Char :=
  '"' :: s.toList.flatMap escaped ++ ['"']

mutual

def chars : Json → List Char
  | .null => "null".toList
  | .bool true => "true".toList
  | .bool false => "false".toList
  | .number literal => literal
  | .text content => quote (content.getD "")
  | .array [] => ['[', ']']
  | .array (v :: vs) => '[' :: chars v ++ itemChars vs ++ [']']
  | .object [] => ['\x7b', '\x7d']
  | .object ((k, v) :: ms) => '\x7b' :: quote k ++ ':' :: chars v ++ memberChars ms ++ ['\x7d']

/-- The items after the first. -/
def itemChars : List Json → List Char
  | [] => []
  | v :: vs => ',' :: chars v ++ itemChars vs

/-- The members after the first. -/
def memberChars : List (String × Json) → List Char
  | [] => []
  | (k, v) :: ms => ',' :: quote k ++ ':' :: chars v ++ memberChars ms

end

def render (j : Json) : String :=
  String.ofList j.chars

private def indentation (depth : Nat) : List Char :=
  '\n' :: List.replicate (2 * depth) ' '

mutual

/-- The form for people: two spaces of indentation, one member on a line. -/
def prettyChars (depth : Nat) : Json → List Char
  | .array (v :: vs) =>
    '[' :: indentation (depth + 1) ++ prettyChars (depth + 1) v ++ prettyItems (depth + 1) vs ++
      indentation depth ++ [']']
  | .object ((k, v) :: ms) =>
    '\x7b' :: indentation (depth + 1) ++ quote k ++ ':' :: ' ' :: prettyChars (depth + 1) v ++
      prettyMembers (depth + 1) ms ++ indentation depth ++ ['\x7d']
  | .array [] => ['[', ']']
  | .object [] => ['\x7b', '\x7d']
  | .null => chars .null
  | .bool b => chars (.bool b)
  | .number literal => literal
  | .text content => chars (.text content)

/-- The items after the first, each on its line. -/
def prettyItems (depth : Nat) : List Json → List Char
  | [] => []
  | v :: vs => ',' :: indentation depth ++ prettyChars depth v ++ prettyItems depth vs

/-- The members after the first, each on its line. -/
def prettyMembers (depth : Nat) : List (String × Json) → List Char
  | [] => []
  | (k, v) :: ms =>
    ',' :: indentation depth ++ quote k ++ ':' :: ' ' :: prettyChars depth v ++
      prettyMembers depth ms

end

def pretty (j : Json) : String :=
  String.ofList (j.prettyChars 0)

end Json

end AnomalyWatch
