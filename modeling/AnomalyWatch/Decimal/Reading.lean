import AnomalyWatch.Text.Digits

/-!
Reading a double from text: the nearest double to the decimal that is written. An optional sign, digits
with an optional point and at least one digit, an optional exponent; or a word for infinity or for
not-a-number, in any case.
-/

set_option autoImplicit false
set_option relaxedAutoImplicit false

namespace AnomalyWatch.Decimal

open AnomalyWatch.Text (isDigit digitsValue)

/-- The double nearest to `digits · 10^exponent`. A value beyond the range is infinite, one below the
least positive double by far is zero; the bounds only keep the powers of ten small. -/
def nearest (digits : Nat) (exponent : Int) : Float :=
  if digits = 0 then 0
  else
    let size := exponent + (Nat.toDigits 10 digits).length
    if 400 < size then Float.ofScientific 1 false 400
    else if size < -400 then 0
    else if 0 ≤ exponent then Float.ofScientific digits false exponent.toNat
    else Float.ofScientific digits true (-exponent).toNat

/-- The exponent after its letter: an optional sign and one or more digits, to the end. -/
def exponent? (cs : List Char) : Option Int :=
  let read (ds : List Char) : Option Nat :=
    if ds ≠ [] && ds.all isDigit then some (digitsValue ds) else none
  match cs with
  | '-' :: ds => (read ds).map fun n => -(n : Int)
  | '+' :: ds => (read ds).map fun n => (n : Int)
  | ds => (read ds).map fun n => (n : Int)

def magnitude? (cs : List Char) : Option Float :=
  let whole := cs.takeWhile isDigit
  let rest := cs.dropWhile isDigit
  let (fraction, rest) :=
    match rest with
    | '.' :: more => (more.takeWhile isDigit, more.dropWhile isDigit)
    | more => ([], more)
  if whole.isEmpty && fraction.isEmpty then none
  else
    let digits := digitsValue (whole ++ fraction)
    match rest with
    | [] => some (nearest digits (-(fraction.length : Int)))
    | e :: more =>
      if e = 'e' || e = 'E' then
        (exponent? more).map fun k => nearest digits (k - fraction.length)
      else none

/-- A word that stands for a value that is not finite. -/
def wordValue? (cs : List Char) : Option Float :=
  let word := String.ofList (cs.map Char.toLower)
  if word = "inf" || word = "infinity" then some (1.0 / 0.0)
  else if word = "nan" then some (0.0 / 0.0)
  else none

/-- A double in text, with an optional sign and no blanks. -/
def read? (s : String) : Option Float :=
  let unsigned (cs : List Char) : Option Float := wordValue? cs <|> magnitude? cs
  match s.toList with
  | '-' :: cs => (unsigned cs).map fun x => -x
  | '+' :: cs => unsigned cs
  | cs => unsigned cs

end AnomalyWatch.Decimal
