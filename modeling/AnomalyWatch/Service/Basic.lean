import AnomalyWatch.Pass.Surroundings
import AnomalyWatch.Roster
import AnomalyWatch.Scheduler.Timetable

/-!
A service: specs, the functions with a recurring job, a scheduler, and what passes share.

The kind of scheduler is left open; an operation that asks the scheduler is told how it answers.
-/

set_option autoImplicit false
set_option relaxedAutoImplicit false

namespace AnomalyWatch

/-- How a scheduler of jobs answers, by its state. -/
abbrev Scheduler.Answers (σ : Type) : Type :=
  Scheduler.Call Job → StateM σ (Except Error Unit)

def Timetable.answers : Scheduler.Answers (Timetable Job) :=
  fun c t => t.respond c

/-- Specs, roster, scheduler and site of a program. -/
structure Service (σ : Type) where
  workshop : Workshop
  roster : Roster
  scheduler : σ
  site : Site

namespace Service

variable {σ : Type}

/-- A service where nothing is running. -/
def idle (workshop : Workshop) (scheduler : σ) (site : Site) : Service σ :=
  ⟨workshop, .empty, scheduler, site⟩

def consult {α : Type} (answers : Scheduler.Answers σ) (s : Service σ) (d : Scheduler.Step Job α) :
    α × Service σ :=
  let r := (d.run answers).run s.scheduler
  (r.1, { s with scheduler := r.2 })

/-- Let the scheduler answer, and take over the roster that comes of it. -/
def manage {α : Type} (answers : Scheduler.Answers σ) (s : Service σ)
    (d : Scheduler.Step Job (α × Roster)) : α × Service σ :=
  let r := s.consult answers d
  (r.1.1, { r.2 with roster := r.1.2 })

def start (answers : Scheduler.Answers σ) (s : Service σ) (id : Nat) : Except Error Unit × Service σ :=
  s.manage answers (s.roster.start s.workshop id)

def stop (answers : Scheduler.Answers σ) (s : Service σ) (id : Nat) : Except Error Unit × Service σ :=
  s.manage answers (s.roster.stop id)

/-- Stop every recurring job, and tell how many were stopped. -/
def stopAll (answers : Scheduler.Answers σ) (s : Service σ) : Nat × Service σ :=
  s.manage answers s.roster.stopAll

/-- Hand a one-shot run of a function to the scheduler. -/
def runAdHoc (answers : Scheduler.Answers σ) (s : Service σ) (id : Nat)
    (start stop : Option String) : Except Error Unit × Service σ :=
  s.consult answers (Roster.runAdHoc s.workshop id start stop)

/-- Start functions in turn, and tell which could not be started. -/
def startEach (answers : Scheduler.Answers σ) (s : Service σ) :
    List Nat → List (Nat × Error) × Service σ
  | [] => ([], s)
  | id :: rest =>
    match s.start answers id with
    | (.ok (), s) => s.startEach answers rest
    | (.error e, s) =>
      let r := s.startEach answers rest
      ((id, e) :: r.1, r.2)

/-- The functions to start where none are named: those that are active. -/
def wanted (s : Service σ) (ids : List Nat) : List Nat :=
  if ids.isEmpty then (s.workshop.specs.values.filter Spec.isActive).map Spec.id else ids

variable {m : Type → Type} [Monad m]

def run (around : Surroundings m) (s : Service σ) (job : Job) (now : Instant) :
    m (Except Error Summary × Service σ) := do
  let (outcome, site) ← ((job.pass now).run around.respond).run s.site
  return (outcome, { s with site })

/-- Run a pass of a function apart from the scheduler. -/
def runAt (around : Surroundings m) (s : Service σ) (id : Nat) (start stop : Option String)
    (now : Instant) : m (Except Error Summary × Service σ) :=
  match s.workshop.adHocJob id start stop with
  | .error e => pure (.error e, s)
  | .ok job => s.run around job now

/-- Run the passes of firings in turn. -/
def runFirings (around : Surroundings m) (s : Service σ) (now : Instant) :
    List (Firing Job) → m (Service σ)
  | [] => pure s
  | f :: rest => do
    let (_, s) ← s.run around f.task now
    s.runFirings around now rest

end Service

end AnomalyWatch
