import AnomalyWatch.Scheduler.Round
import AnomalyWatch.Scheduler.Timetable

/-!
The scheduler together with its triggers at work.

A trigger at work is a runner: it goes through its rounds and starts its task when the first sleep of a round is over,
without a look at the timetable. The timetable keeps the serial number of the runner under each key, so that the
runner can be aborted. An aborted runner takes no further step.
-/

set_option autoImplicit false
set_option relaxedAutoImplicit false

namespace AnomalyWatch

/-- A trigger at work: what it was started with, and what is left of its round. -/
structure Runner (Task : Type) where
  key : String
  schedule : Schedule
  task : Task
  left : Schedule.Step (Option Instant)
  aborted : Bool

namespace Runner

variable {Task : Type}

def start (key : String) (schedule : Schedule) (task : Task) : Runner Task :=
  ⟨key, schedule, task, schedule.round, false⟩

def abort (r : Runner Task) : Runner Task :=
  { r with aborted := true }

/-- Go on with the round, or with the next one if this one is over and has fired. -/
def goOn (r : Runner Task) : Schedule.Step (Option Instant) → Runner Task
  | .done (some _) => { r with left := r.schedule.round }
  | left => { r with left }

/-- The next thing to do is to start the task. -/
def isDue (r : Runner Task) : Bool :=
  match r.left with
  | .ask (.fire _) _ => true
  | _ => false

/-- Make the next call. The clock shows the reading if it is asked for; a sleep that is asked for is over. -/
def turn (r : Runner Task) (reading : WallTime) : Runner Task :=
  match r.left with
  | .done _ => r
  | .ask .now next => r.goOn (next reading)
  | .ask (.sleep _) next => r.goOn (next ())
  | .ask (.fire _) next => r.goOn (next ())

end Runner

/-- The timetable, and every runner that was ever started, by its serial number. -/
structure Clockwork (Task : Type) where
  timetable : Timetable Task
  runners : List (Runner Task)

namespace Clockwork

variable {Task : Type}

def idle : Clockwork Task := ⟨.empty, []⟩

/-- What can happen: a call on the scheduler, its shutdown, and a step of a runner. -/
inductive Event (Task : Type)
  | call (c : Scheduler.Call Task)
  | shutdown
  | turn (serial : Nat) (reading : WallTime)

/-- Abort the runners with these serial numbers. -/
def abort (runners : List (Runner Task)) (serials : List Nat) : List (Runner Task) :=
  runners.mapIdx fun serial r => if serial ∈ serials then r.abort else r

/-- The runner of a new trigger. -/
def started (key cron : String) (task : Task) : List (Runner Task) :=
  match Cron.parse cron with
  | .ok schedule => [.start key schedule task]
  | .error _ => []

/-- A call that has succeeded starts the runner of a trigger, or aborts it. -/
def runnersAfter (c : Clockwork Task) : Scheduler.Call Task → List (Runner Task)
  | .recurring key cron task => c.runners ++ started key cron task
  | .once _ _ => c.runners
  | .cancel key => abort c.runners ((c.timetable.triggers.get? key).toList.map Trigger.serial)

/-- The timetable answers the call; if it refuses, nothing is done to the runners. -/
def answer (c : Clockwork Task) (call : Scheduler.Call Task) : Except Error Unit × Clockwork Task :=
  match c.timetable.respond call with
  | (.ok (), timetable) => (.ok (), ⟨timetable, c.runnersAfter call⟩)
  | (.error e, timetable) => (.error e, ⟨timetable, c.runners⟩)

/-- Remove every trigger and abort its runner. -/
def shutdown (c : Clockwork Task) : Clockwork Task :=
  ⟨c.timetable.shutdown, abort c.runners (c.timetable.triggers.values.map Trigger.serial)⟩

/-- What a runner starts in its next step. -/
def fired (r : Runner Task) (serial : Nat) : List (Firing Task) :=
  if r.isDue then [⟨r.key, r.task, some serial⟩] else []

/-- A runner takes a step unless it is aborted. -/
def turn (c : Clockwork Task) (serial : Nat) (reading : WallTime) : Clockwork Task :=
  match c.runners[serial]? with
  | none => c
  | some r =>
    if r.aborted then c
    else ⟨{ c.timetable with firings := c.timetable.firings ++ fired r serial },
      c.runners.set serial (r.turn reading)⟩

def respond (c : Clockwork Task) : Event Task → Except Error Unit × Clockwork Task
  | .call call => c.answer call
  | .shutdown => (.ok (), c.shutdown)
  | .turn serial reading => (.ok (), c.turn serial reading)

/-- Events with their outcomes, the earliest first. -/
abbrev Log (Task : Type) : Type := List (Event Task × Except Error Unit)

/-- One more event: it is logged with its outcome. -/
def after (s : Log Task × Clockwork Task) (event : Event Task) : Log Task × Clockwork Task :=
  (s.1 ++ [(event, (s.2.respond event).1)], (s.2.respond event).2)

/-- Whatever happens, one event after the other. -/
def run (events : List (Event Task)) : Log Task × Clockwork Task :=
  events.foldl after ([], idle)

end Clockwork

end AnomalyWatch
