import AnomalyWatch.Detection.Catalogue
import AnomalyWatch.Pass.Job
import AnomalyWatch.Scheduler.Calls
import AnomalyWatch.Cron.Schedule

/-!
The functions with a recurring job.

Starting, stopping and one-shot runs are dialogues with a scheduler. Everything that can be checked beforehand is
checked before the scheduler is asked, and the roster changes only after the scheduler agreed. A trigger that
the scheduler does not know any more counts as stopped.
-/

set_option autoImplicit false
set_option relaxedAutoImplicit false

namespace AnomalyWatch

/-- The specs that are known, by id. -/
abbrev SpecSet : Type := SortedMap Nat Spec

/-- The ids of functions with a recurring job, each with the key of its trigger. -/
structure Roster where
  jobs : SortedMap Nat String

/-- What jobs are built from. -/
structure Workshop where
  specs : SpecSet
  catalogue : Catalogue

namespace Workshop

def recurringKey (id : Nat) : String :=
  "scheduled_anomaly_function_job_" ++ toString id

def adHocKey (id : Nat) : String :=
  "ad_hoc_anomaly_function_job_" ++ toString id

def findSpec (w : Workshop) (id : Nat) : Except Error Spec :=
  match w.specs.get? id with
  | some spec => .ok spec
  | none => .error (.unknownFunction id)

def job (w : Workshop) (spec : Spec) (name : String) (bounds : Bounds) : Except Error Job := do
  let detector ← w.catalogue.build spec
  return ⟨name, detector, bounds⟩

/-- The job of a one-shot run with optional bounds. -/
def adHocJob (w : Workshop) (id : Nat) (start stop : Option String) : Except Error Job := do
  let spec ← w.findSpec id
  let bounds ← Bounds.parse start stop
  w.job spec (adHocKey id) bounds

end Workshop

namespace Roster

/-- Nothing is running. -/
def empty : Roster := ⟨∅⟩

/-- The ids of all functions with a recurring job, ascending. -/
def active (r : Roster) : List Nat := r.jobs.keys

/-- What a start hands to the scheduler: the expression and the job. -/
def prepare (w : Workshop) (r : Roster) (id : Nat) : Except Error (String × Job) := do
  let spec ← w.findSpec id
  match r.jobs.get? id with
  | some key => throw (.alreadyScheduled id key)
  | none =>
    let job ← w.job spec (Workshop.recurringKey id) Bounds.none
    let _ ← Cron.parse spec.cron
    return (spec.cron, job)

def start (w : Workshop) (r : Roster) (id : Nat) :
    Scheduler.Step Job (Except Error Unit × Roster) :=
  match prepare w r id with
  | .error e => return (.error e, r)
  | .ok (cron, job) => do
    match ← Scheduler.ask (.recurring job.name cron job) with
    | .error e => return (.error e, r)
    | .ok () => return (.ok (), ⟨r.jobs.insert id job.name⟩)

/-- Cancel a trigger; one that is gone already is cancelled. -/
def cancelTrigger (key : String) : Scheduler.Step Job (Except Error Unit) := do
  match ← Scheduler.ask (.cancel key) with
  | .ok () => return .ok ()
  | .error e => return if e.kind = .notFound then .ok () else .error e

def stop (r : Roster) (id : Nat) :
    Scheduler.Step Job (Except Error Unit × Roster) :=
  match r.jobs.get? id with
  | none => return (.error (.notScheduled id), r)
  | some key => do
    match ← cancelTrigger key with
    | .error e => return (.error e, r)
    | .ok () => return (.ok (), ⟨r.jobs.erase id⟩)

/-- Stop jobs in turn, counting on from `stopped`; a job that cannot be stopped stays. -/
def stopEach (r : Roster) (stopped : Nat) :
    List (Nat × String) → Scheduler.Step Job (Nat × Roster)
  | [] => return (stopped, r)
  | (id, key) :: rest => do
    match ← cancelTrigger key with
    | .error _ => stopEach r stopped rest
    | .ok () => stopEach ⟨r.jobs.erase id⟩ (stopped + 1) rest

/-- Stop every job, and tell how many were stopped. -/
def stopAll (r : Roster) : Scheduler.Step Job (Nat × Roster) :=
  stopEach r 0 r.jobs.entries

/-- Run a function once, apart from its recurring job. -/
def runAdHoc (w : Workshop) (id : Nat) (start stop : Option String) :
    Scheduler.Step Job (Except Error Unit) :=
  match w.adHocJob id start stop with
  | .error e => return .error e
  | .ok job => Scheduler.ask (.once job.name job)

end Roster

end AnomalyWatch
