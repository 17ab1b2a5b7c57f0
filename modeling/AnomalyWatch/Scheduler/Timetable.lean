import AnomalyWatch.Cron.Schedule
import AnomalyWatch.Scheduler.Calls

/-!
The scheduler of a running program: a trigger for every key, and the firings so far.

Every trigger has a serial number of its own. A trigger that wakes fires only while it is the one that stands
under its key, so a cancelled or replaced trigger fires no more. Firings once started are not called back.
-/

set_option autoImplicit false
set_option relaxedAutoImplicit false

namespace AnomalyWatch

/-- A recurring task under a key. -/
structure Trigger (Task : Type) where
  serial : Nat
  schedule : Schedule
  task : Task

/-- A task that was started. -/
structure Firing (Task : Type) where
  key : String
  task : Task
  /-- The trigger that started it; one-shot tasks have none. -/
  trigger : Option Nat

/-- The triggers by key, and the firings in their order. -/
structure Timetable (Task : Type) where
  triggers : SortedMap String (Trigger Task)
  nextSerial : Nat
  firings : List (Firing Task)

namespace Timetable

variable {Task : Type}

/-- Nothing scheduled, nothing fired. -/
def empty : Timetable Task := ⟨∅, 0, []⟩

/-- The keys of all triggers, ascending. -/
def keys (t : Timetable Task) : List String := t.triggers.keys

/-- Install a trigger. The expression is read first; a key can have one trigger. -/
def recurring (t : Timetable Task) (key cron : String) (task : Task) :
    Except Error (Timetable Task) := do
  let schedule ← Cron.parse cron
  if t.triggers.contains key then throw (.triggerExists key)
  else
    return { t with
      triggers := t.triggers.insert key ⟨t.nextSerial, schedule, task⟩
      nextSerial := t.nextSerial + 1 }

def once (t : Timetable Task) (key : String) (task : Task) : Timetable Task :=
  { t with firings := t.firings ++ [⟨key, task, none⟩] }

def cancel (t : Timetable Task) (key : String) : Except Error (Timetable Task) :=
  if t.triggers.contains key then .ok { t with triggers := t.triggers.erase key }
  else .error (.unknownTrigger key)

/-- Remove every trigger. -/
def shutdown (t : Timetable Task) : Timetable Task :=
  { t with triggers := ∅ }

/-- The trigger under a key, if it has this serial number. -/
def standing? (t : Timetable Task) (key : String) (serial : Nat) : Option (Trigger Task) :=
  (t.triggers.get? key).filter (·.serial = serial)

/-- A trigger wakes: it fires if it still stands under its key. -/
def wake (t : Timetable Task) (key : String) (serial : Nat) : Timetable Task :=
  match t.standing? key serial with
  | some trigger => { t with firings := t.firings ++ [⟨key, trigger.task, some serial⟩] }
  | none => t

/-- Carry out a change, or stay as it was. -/
def attempt (t : Timetable Task) : Except Error (Timetable Task) → Except Error Unit × Timetable Task
  | .ok changed => (.ok (), changed)
  | .error e => (.error e, t)

def respond (t : Timetable Task) : Scheduler.Call Task → Except Error Unit × Timetable Task
  | .recurring key cron task => t.attempt (t.recurring key cron task)
  | .once key task => (.ok (), t.once key task)
  | .cancel key => t.attempt (t.cancel key)

end Timetable

end AnomalyWatch
