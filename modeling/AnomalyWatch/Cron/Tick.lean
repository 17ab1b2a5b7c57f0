import AnomalyWatch.Cron.Schedule

/-!
The instants of a schedule.

Years, months, days, hours, minutes and seconds are tried in ascending order, so the first instant found is
the least. Ticks are whole seconds in UTC; day of the month and day of the week both have to match.
-/

set_option autoImplicit false
set_option relaxedAutoImplicit false

namespace AnomalyWatch.Schedule

/-- The days of a month on which a schedule ticks, as days from 1970. -/
def daysIn (s : Schedule) (year month : Nat) : List Int :=
  let within := s.daysOfMonth.filter (· ≤ Date.daysInMonth year month)
  (within.map fun day => Date.toDays ⟨year, month, day⟩).filter
    fun days => Date.weekday days ∈ s.daysOfWeek

/-- The first tick of a day from a second on. -/
def firstOfDay? (s : Schedule) (days least : Int) : Option Int :=
  if (days + 1) * 86400 ≤ least then none
  else
    s.hours.findSome? fun hour =>
      s.minutes.findSome? fun minute =>
        s.seconds.findSome? fun second =>
          let t := days * 86400 + (hour * 3600 + minute * 60 + second : Nat)
          if least ≤ t then some t else none

/-- The first tick from a second on, counted from 1970. -/
def firstFrom? (s : Schedule) (least : Int) : Option Int :=
  s.years.findSome? fun year =>
    s.months.findSome? fun month =>
      (s.daysIn year month).findSome? fun days => s.firstOfDay? days least

/-- The first tick after the whole second of an instant. -/
def next? (s : Schedule) (after : Instant) : Option Instant :=
  (s.firstFrom? (after.seconds + 1)).bind fun t => Instant.make? t 0

/-- The first so many ticks after an instant; fewer if the schedule ends. -/
def ticks (s : Schedule) (after : Instant) : Nat → List Instant
  | 0 => []
  | count + 1 =>
    match s.next? after with
    | some t => t :: s.ticks t count
    | none => []

end AnomalyWatch.Schedule
