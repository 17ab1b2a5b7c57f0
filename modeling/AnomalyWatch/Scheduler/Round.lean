import AnomalyWatch.Cron.Tick
import AnomalyWatch.Dialogue

/-!
The rounds of a trigger.

In a round the trigger looks for the next tick, sleeps until it is due, fires, and sleeps on if it woke early, so
that the next round finds a later tick. The rounds end when the schedule has no further tick.
-/

set_option autoImplicit false
set_option relaxedAutoImplicit false

namespace AnomalyWatch

namespace Instant

/-- The nanoseconds from one instant until another, none if that lies in the past. -/
def nanosUntil (now later : Instant) : Nat :=
  ((later.seconds - now.seconds) * second + (later.nanos - now.nanos : Int)).toNat

end Instant

/-- What a wall clock can show: it knows no leap seconds. -/
structure WallTime where
  instant : Instant
  nanos_lt : instant.nanos < Instant.second

namespace WallTime

instance : Inhabited WallTime := ⟨.epoch, by decide⟩

/-- The time a number of nanoseconds from 1970, if it is representable. -/
def ofNanos? (nanos : Int) : Option WallTime :=
  if h : Instant.Admissible (nanos / Instant.second) (nanos % Instant.second).toNat then
    some ⟨⟨_, _, h⟩, by simp only [Instant.second]; omega⟩
  else none

end WallTime

namespace Schedule

/-- What a trigger asks of its surroundings. -/
inductive Call
  | now
  /-- Sleep for a number of nanoseconds. -/
  | sleep (duration : Nat)
  /-- Start the task for a tick. -/
  | fire (tick : Instant)

/-- What a call is answered with. -/
abbrev Reply : Call → Type
  | .now => WallTime
  | .sleep _ | .fire _ => Unit

abbrev Step (α : Type) : Type := Dialogue Call Reply α

def clock : Step Instant := do
  let reading ← Dialogue.call Call.now
  return reading.instant

/-- Sleep until an instant, as far as the clock tells. -/
def sleepUntil (t : Instant) : Step Unit := do
  let now ← clock
  Dialogue.call (Call.sleep (now.nanosUntil t))

/-- One round; tells which tick was fired, none if the schedule has ended. -/
def round (s : Schedule) : Step (Option Instant) := do
  let now ← clock
  match s.next? now with
  | none => return none
  | some tick =>
    sleepUntil tick
    Dialogue.call (Call.fire tick)
    let now ← clock
    let rest := now.nanosUntil tick
    if rest ≠ 0 then Dialogue.call (Call.sleep rest)
    return some tick

end Schedule

end AnomalyWatch
