import AnomalyWatch.Text.Digits
import AnomalyWatch.Time.Instant

/-!
The written form of an instant: `YYYY-MM-DDThh:mm:ss`, a fraction of three, six or nine digits when the
nanoseconds need them, and a zone. Years outside 0 to 9999 carry a sign. A leap second is second 60.
-/

set_option autoImplicit false
set_option relaxedAutoImplicit false

namespace AnomalyWatch

open Text (zeroPadded decimal)

namespace Instant

/-- A year: four digits, or a sign and at least four digits. -/
def yearText (year : Int) : List Char :=
  if 0 ≤ year ∧ year ≤ 9999 then zeroPadded 4 year.toNat
  else if year < 0 then '-' :: zeroPadded 4 (-year).toNat
  else '+' :: zeroPadded 4 year.toNat

/-- The fewest digits out of none, three, six and nine that write the fraction exactly. -/
def fractionText (nanos : Nat) : List Char :=
  if nanos = 0 then []
  else if nanos % 1000000 = 0 then '.' :: zeroPadded 3 (nanos / 1000000)
  else if nanos % 1000 = 0 then '.' :: zeroPadded 6 (nanos / 1000)
  else '.' :: zeroPadded 9 nanos

def dateText (d : Date) : List Char :=
  yearText d.year ++ '-' :: zeroPadded 2 d.month ++ '-' :: zeroPadded 2 d.day

/-- Date and time of day of a count of seconds and nanoseconds, without a zone. -/
def localText (seconds : Int) (nanos : Nat) : List Char :=
  let ofDay := (seconds % 86400).toNat
  let isLeap := second ≤ nanos
  let secondOfMinute := if isLeap then ofDay % 60 + 1 else ofDay % 60
  let fraction := if isLeap then nanos - second else nanos
  dateText (Date.ofDays (seconds / 86400)) ++ 'T' :: zeroPadded 2 (ofDay / 3600) ++
    ':' :: zeroPadded 2 (ofDay / 60 % 60) ++ ':' :: zeroPadded 2 secondOfMinute ++
    fractionText fraction

/-- An offset from UTC in whole minutes. -/
def offsetText (minutes : Int) : List Char :=
  (if minutes < 0 then '-' else '+') :: zeroPadded 2 (minutes.natAbs / 60) ++
    ':' :: zeroPadded 2 (minutes.natAbs % 60)

/-- The instant as a clock shows it at an offset of whole minutes from UTC. -/
def textAt (t : Instant) (minutes : Int) : List Char :=
  localText (t.seconds + minutes * 60) t.nanos ++ offsetText minutes

/-- The instant with the zone `+00:00`. -/
def text (t : Instant) : String :=
  String.ofList (t.textAt 0)

/-- The instant with the zone `Z`, as documents write it. -/
def zuluText (t : Instant) : String :=
  String.ofList (localText t.seconds t.nanos ++ ['Z'])

end Instant

end AnomalyWatch
