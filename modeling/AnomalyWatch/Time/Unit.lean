/-!
Units of time in which windows, delays and buckets are counted.
-/

set_option autoImplicit false
set_option relaxedAutoImplicit false

namespace AnomalyWatch

/-- A unit of time. -/
inductive TimeUnit
  | milliseconds | seconds | minutes | hours | days
  deriving DecidableEq, Repr

namespace TimeUnit

/-- Every unit, the shortest first. -/
def all : List TimeUnit := [.milliseconds, .seconds, .minutes, .hours, .days]

def name : TimeUnit → String
  | milliseconds => "MILLISECONDS"
  | seconds => "SECONDS"
  | minutes => "MINUTES"
  | hours => "HOURS"
  | days => "DAYS"

/-- The unit with a name, which is case-sensitive. -/
def ofName? (s : String) : Option TimeUnit :=
  all.find? (·.name == s)

/-- Milliseconds in one unit. -/
def millisPerUnit : TimeUnit → Nat
  | milliseconds => 1
  | seconds => 1000
  | minutes => 60000
  | hours => 3600000
  | days => 86400000

/-- The largest number of milliseconds an amount can have. -/
def mostMillis : Nat := 0xFFFFFFFFFFFFFFFF

/-- The largest number of milliseconds a duration can have. -/
def longestDuration : Nat := 0x7FFFFFFFFFFFFFFF

/-- An amount in milliseconds, at most an unsigned 64-bit word. -/
def toMillis (u : TimeUnit) (amount : Nat) : Nat :=
  min (amount * u.millisPerUnit) mostMillis

/-- An amount as a duration in milliseconds, at most a signed 64-bit word. -/
def duration (u : TimeUnit) (amount : Nat) : Nat :=
  min (u.toMillis amount) longestDuration

theorem duration_of_le (u : TimeUnit) {amount : Nat} (short : amount * u.millisPerUnit ≤ longestDuration) :
    u.duration amount = amount * u.millisPerUnit := by
  simp only [duration, toMillis, mostMillis, longestDuration] at short ⊢
  omega

theorem duration_of_gt (u : TimeUnit) {amount : Nat} (long : longestDuration < amount * u.millisPerUnit) :
    u.duration amount = longestDuration := by
  simp only [duration, toMillis, mostMillis, longestDuration] at long ⊢
  omega

end TimeUnit

end AnomalyWatch
