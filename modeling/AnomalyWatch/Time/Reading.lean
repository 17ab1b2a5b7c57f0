import AnomalyWatch.Text.Blank
import AnomalyWatch.Text.Digits
import AnomalyWatch.Time.Instant

/-!
Reading instants from text.

`Instant.read?` takes, in this order, a full date-time with its offset in fixed columns, a date-time
without offset down to the second or to the minute, and a bare date; the last three are UTC and let
blanks stand before each number. `Instant.readLenient?` is the form documents use: always with an
offset, with blanks allowed between the parts.
-/

set_option autoImplicit false
set_option relaxedAutoImplicit false

namespace AnomalyWatch.Instant

open AnomalyWatch.Text (isBlank isDigit digitsValue trimStart trimChars)

/-- The parts of a date and a time of day as they were written. -/
structure Parts where
  date : Date
  hour : Nat
  minute : Nat
  second : Nat
  nanos : Nat

/-- The instant of local parts at an offset in seconds. Second 60 is a leap second in any minute; both the
local time and the instant have to be representable. -/
def ofParts? (p : Parts) (offset : Int) : Option Instant :=
  if !(p.date.exists? && p.hour < 24 && p.minute < 60 && p.second ≤ 60) then none
  else
    let second := if p.second = 60 then 59 else p.second
    let nanos := if p.second = 60 then p.nanos + Instant.second else p.nanos
    let ofDay := p.hour * 3600 + p.minute * 60 + second
    (make? (p.date.toDays * 86400 + (ofDay : Nat)) nanos).bind fun wall =>
      make? (wall.seconds - offset) wall.nanos

/-- At least `least` and at most `most` digits, as many as there are. -/
def number (least most : Nat) (cs : List Char) : Option (Nat × List Char) :=
  let ds := (cs.take most).takeWhile isDigit
  if ds.length < least then none else some (digitsValue ds, cs.drop ds.length)

def expect (c : Char) : List Char → Option (Unit × List Char)
  | [] => none
  | d :: ds => if d = c then some ((), ds) else none

/-- One or more digits of a fraction of a second; digits past the ninth are dropped. -/
def fraction (cs : List Char) : Option (Nat × List Char) := do
  let ds := (cs.take 9).takeWhile isDigit
  if ds.isEmpty then none
  else some (digitsValue ds * Nat.pow 10 (9 - ds.length), (cs.drop ds.length).dropWhile isDigit)

/-- A fraction if a point announces one. -/
def optionalFraction : List Char → Option (Nat × List Char)
  | '.' :: cs => fraction cs
  | cs => some (0, cs)

/-- Two digits of hours, the separator, two digits of minutes up to 59; hours are not bounded here. -/
def offsetDigits (separator : List Char → Option (Unit × List Char)) (cs : List Char) : Option (Nat × List Char) := do
  let (hours, cs) ← number 2 2 cs
  let ((), cs) ← separator cs
  let (minutes, cs) ← number 2 2 cs
  if 59 < minutes then none else some (hours * 3600 + minutes * 60, cs)

/-- An offset from UTC in seconds: `Z`, or a sign and hours and minutes. The minus sign U+2212 counts as
a sign. -/
def offset (separator : List Char → Option (Unit × List Char)) : List Char → Option (Int × List Char)
  | 'Z' :: cs => some (0, cs)
  | 'z' :: cs => some (0, cs)
  | '+' :: cs => (offsetDigits separator cs).map fun r => ((r.1 : Int), r.2)
  | '-' :: cs => (offsetDigits separator cs).map fun r => (-(r.1 : Int), r.2)
  | '\u2212' :: cs => (offsetDigits separator cs).map fun r => (-(r.1 : Int), r.2)
  | _ => none

/-- An offset is less than a day. -/
def checkedOffset (seconds : Int) : Option Int :=
  if seconds.natAbs < 86400 then some seconds else none

def dateTimeGap : List Char → Option (Unit × List Char)
  | 'T' :: cs => some ((), cs)
  | 't' :: cs => some ((), cs)
  | ' ' :: cs => some ((), cs)
  | _ => none

/-- A date-time with its offset, every number at its full width. -/
def fixedForm? (cs : List Char) : Option Instant := do
  let (year, cs) ← number 4 4 cs
  let ((), cs) ← expect '-' cs
  let (month, cs) ← number 2 2 cs
  let ((), cs) ← expect '-' cs
  let (day, cs) ← number 2 2 cs
  let ((), cs) ← dateTimeGap cs
  let (hour, cs) ← number 2 2 cs
  let ((), cs) ← expect ':' cs
  let (minute, cs) ← number 2 2 cs
  let ((), cs) ← expect ':' cs
  let (second, cs) ← number 2 2 cs
  let (nanos, cs) ← optionalFraction cs
  let (seconds, cs) ← offset (expect ':') cs
  let seconds ← checkedOffset seconds
  if cs ≠ [] then none
  else ofParts? ⟨⟨year, month, day⟩, hour, minute, second, nanos⟩ seconds

/-- Up to two digits after any blanks. -/
def shortNumber (cs : List Char) : Option (Nat × List Char) :=
  number 1 2 (trimStart cs)

/-- A year after any blanks: up to four digits, or a sign and any number of digits. -/
def yearNumber (cs : List Char) : Option (Int × List Char) :=
  match trimStart cs with
  | '-' :: ds => (number 1 ds.length ds).map fun r => (-(r.1 : Int), r.2)
  | '+' :: ds => (number 1 ds.length ds).map fun r => ((r.1 : Int), r.2)
  | ds => (number 1 4 ds).map fun r => ((r.1 : Int), r.2)

/-- A date of numbers that need not have their full width; `gap` may stand before each dash. -/
def looseDate (gap : List Char → List Char) (cs : List Char) : Option (Date × List Char) := do
  let (year, cs) ← yearNumber cs
  let ((), cs) ← expect '-' (gap cs)
  let (month, cs) ← shortNumber cs
  let ((), cs) ← expect '-' (gap cs)
  let (day, cs) ← shortNumber cs
  some (⟨year, month, day⟩, cs)

/-- Hour and minute of numbers that need not have their full width. -/
def looseMinute (gap : List Char → List Char) (cs : List Char) : Option ((Nat × Nat) × List Char) := do
  let (hour, cs) ← shortNumber cs
  let ((), cs) ← expect ':' (gap cs)
  let (minute, cs) ← shortNumber cs
  some ((hour, minute), cs)

/-- A UTC date-time down to the second. -/
def secondForm? (cs : List Char) : Option Instant := do
  let (date, cs) ← looseDate id cs
  let ((), cs) ← expect 'T' cs
  let ((hour, minute), cs) ← looseMinute id cs
  let ((), cs) ← expect ':' cs
  let (second, cs) ← shortNumber cs
  let (nanos, cs) ← optionalFraction cs
  if cs ≠ [] then none else ofParts? ⟨date, hour, minute, second, nanos⟩ 0

/-- A UTC date-time down to the minute. -/
def minuteForm? (cs : List Char) : Option Instant := do
  let (date, cs) ← looseDate id cs
  let ((), cs) ← expect 'T' cs
  let ((hour, minute), cs) ← looseMinute id cs
  if cs ≠ [] then none else ofParts? ⟨date, hour, minute, 0, 0⟩ 0

/-- A date, which stands for its UTC midnight. -/
def dateForm? (cs : List Char) : Option Instant := do
  let (date, cs) ← looseDate id cs
  if cs ≠ [] then none else ofParts? ⟨date, 0, 0, 0, 0⟩ 0

/-- The first of the four forms that takes the text without the blanks at its ends. -/
def read? (value : String) : Option Instant :=
  let cs := trimChars value.toList
  fixedForm? cs <|> secondForm? cs <|> minuteForm? cs <|> dateForm? cs

/-- Any run of colons and blanks, also an empty one. -/
def colonsAndBlanks (cs : List Char) : Option (Unit × List Char) :=
  some ((), cs.dropWhile fun c => c == ':' || isBlank c)

/-- The zone of a document: the letters UTC in any case, or an offset. -/
def lenientZone (cs : List Char) : Option (Int × List Char) :=
  if (cs.take 3).map Char.toLower = ['u', 't', 'c'] then some (0, cs.drop 3)
  else offset colonsAndBlanks cs

/-- A date-time with a zone, as documents hold it: blanks may stand between the parts and at the end. -/
def readLenient? (value : String) : Option Instant := do
  let (date, cs) ← looseDate trimStart value.toList
  let ((), cs) ← dateTimeGap cs
  let ((hour, minute), cs) ← looseMinute trimStart cs
  let ((), cs) ← expect ':' (trimStart cs)
  let (second, cs) ← shortNumber cs
  let (nanos, cs) ← optionalFraction cs
  let (seconds, cs) ← lenientZone (trimStart cs)
  let seconds ← checkedOffset seconds
  if trimStart cs ≠ [] then none
  else ofParts? ⟨date, hour, minute, second, nanos⟩ seconds

end AnomalyWatch.Instant
