import AnomalyWatch.Service.Basic

/-!
A scheduler for rehearsals: it records what it is asked for, fires nothing by itself, and refuses what it is told to
refuse.
-/

set_option autoImplicit false
set_option relaxedAutoImplicit false

namespace AnomalyWatch

/-- A timetable, what was asked of it, and what it refuses. -/
structure RehearsalScheduler where
  timetable : Timetable Job
  /-- The expressions of the recurring jobs by key. -/
  expressions : SortedMap String String
  /-- The keys that were cancelled, in order. -/
  cancelled : List String
  /-- The keys whose cancellation is refused. -/
  held : List String
  refusesOnce : Bool

namespace RehearsalScheduler

/-- Nothing was asked, nothing is refused. -/
def empty : RehearsalScheduler := ⟨.empty, ∅, [], [], false⟩

def recurring (s : RehearsalScheduler) (key cron : String) (job : Job) :
    Except Error Unit × RehearsalScheduler :=
  match s.timetable.recurring key cron job with
  | .ok timetable => (.ok (), { s with timetable, expressions := s.expressions.insert key cron })
  | .error (.triggerExists key) => (.error (.reported .conflict key), s)
  | .error e => (.error e, s)

def cancel (s : RehearsalScheduler) (key : String) : Except Error Unit × RehearsalScheduler :=
  if key ∈ s.held then (.error (.reported .scheduler "cancel refused"), s)
  else
    match s.timetable.cancel key with
    | .ok timetable =>
      (.ok (), { s with
        timetable, expressions := s.expressions.erase key, cancelled := s.cancelled ++ [key] })
    | .error _ => (.error (.reported .notFound key), s)

def answers : Scheduler.Answers RehearsalScheduler
  | .recurring key cron job => fun s => s.recurring key cron job
  | .once key job => fun s =>
    if s.refusesOnce then (.error (.reported .scheduler "once refused"), s)
    else (.ok (), { s with timetable := s.timetable.once key job })
  | .cancel key => fun s => s.cancel key

/-- Forget every recurring job without a cancellation. -/
def dropTriggers (s : RehearsalScheduler) : RehearsalScheduler :=
  { s with timetable := s.timetable.shutdown, expressions := ∅ }

end RehearsalScheduler

end AnomalyWatch
