import AnomalyWatch.Config.Basic
import AnomalyWatch.Files.SpecDirectory
import AnomalyWatch.Metric.Service
import AnomalyWatch.Service.Basic

/-!
A worker: a service with a real scheduler that asks a metric service and keeps its results in memory or in a journal.

The machine it runs on is an interface: a clock, files, an exchange with a server, and someone who takes notes.
-/

set_option autoImplicit false
set_option relaxedAutoImplicit false

namespace AnomalyWatch

/-- A service and what its passes need. -/
structure Worker where
  service : Service (Timetable Job)
  metrics : MetricService
  /-- The journal of the results, if they are not only kept in memory. -/
  journal : Option String

/-- What a worker tells about itself. -/
inductive Notice
  | specsLoaded (report : SpecDirectory.Report)
  | resultsInMemory
  | notStarted (id : Nat) (cause : Error)
  | running (ids : List Nat)
  | stopped (count : Nat)

/-- What a worker asks of the machine it runs on. -/
structure Machine (m : Type → Type) where
  now : m Instant
  /-- What is at a path. -/
  look : String → m (Option FileTree)
  openJournal : String → m (Except Error Ledger)
  appendJournal : String → List Anomaly → m (Except Error Unit)
  /-- Send a request that may take a number of seconds. -/
  send : Nat → Url → m Exchange
  observe : Visit → m Nat
  note : Notice → m Unit
  /-- Let triggers fire until the worker is told to stop. -/
  attend : Worker → m Worker

namespace Worker

variable {m : Type → Type} [Monad m]

def surroundings (w : Worker) (machine : Machine m) : Surroundings m where
  now := machine.now
  query := w.metrics.ask (machine.send w.metrics.timeout)
  append rows :=
    match w.journal with
    | some path => machine.appendJournal path rows
    | none => pure (.ok ())
  guard _ := pure none
  observe := machine.observe

def openResults (machine : Machine m) : Option String → m (Except Error Ledger)
  | some path => machine.openJournal path
  | none => do
    machine.note .resultsInMemory
    return .ok .empty

/-- A worker with a configuration. The address of the metric service is read before the results are opened. -/
def build (machine : Machine m) (c : Config) (specs : SpecSet) : m (Except Error Worker) :=
  match MetricService.locate c.serviceUrl c.timeout with
  | .error e => pure (.error e)
  | .ok metrics => do
    match ← openResults machine c.journalPath with
    | .error e => return .error e
    | .ok ledger =>
      let service := Service.idle ⟨specs, .standard⟩ Timetable.empty ⟨.ofLedger ledger, .empty⟩
      return .ok ⟨service, metrics, c.journalPath⟩

/-- Run a pass of a function apart from the scheduler. -/
def runAt (machine : Machine m) (w : Worker) (id : Nat) (start stop : Option String)
    (now : Instant) : m (Except Error Summary × Worker) := do
  let (r, service) ← w.service.runAt (w.surroundings machine) id start stop now
  return (r, { w with service })

/-- Start functions, those that are active where none are named, and tell which could not be started. -/
def begin (w : Worker) (ids : List Nat) : List (Nat × Error) × Worker :=
  let r := w.service.startEach Timetable.answers (w.service.wanted ids)
  (r.1, { w with service := r.2 })

/-- Stop every function and the scheduler, and tell how many functions were stopped. -/
def shutdown (w : Worker) : Nat × Worker :=
  let r := w.service.stopAll Timetable.answers
  (r.1, { w with service := { r.2 with scheduler := r.2.scheduler.shutdown } })

def noteAll (machine : Machine m) : List Notice → m Unit
  | [] => pure ()
  | n :: rest => do
    machine.note n
    noteAll machine rest

/-- Start functions, attend to them until told to stop, and stop them. -/
def serve (machine : Machine m) (c : Config) (specs : SpecSet) (ids : List Nat) :
    m (Except Error Unit) := do
  match ← build machine c specs with
  | .error e => return .error e
  | .ok w =>
    let (refused, w) := w.begin ids
    noteAll machine (refused.map fun r => .notStarted r.1 r.2)
    machine.note (.running w.service.roster.active)
    let w ← machine.attend w
    let (count, _) := w.shutdown
    machine.note (.stopped count)
    return .ok ()

def loadSpecs (machine : Machine m) (path : String) : m SpecSet := do
  let (loads, specs) := SpecDirectory.loadAll (← machine.look path) ∅
  machine.note (.specsLoaded (SpecDirectory.report loads))
  return specs

end Worker

end AnomalyWatch
