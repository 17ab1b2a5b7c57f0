import AnomalyWatch.Detection.Exploration
import AnomalyWatch.Dialogue
import AnomalyWatch.Store.Basic

/-!
One detection pass.

A pass resolves its window, reads the known anomalies in a transaction of their own, explores, and writes what
is new in a second transaction. A failed query or analysis is counted and passed over; a failure of the store
ends the pass, rolled back, as a persistence error. Nothing is asked of anyone before the window and the
aggregation are known to be sound.
-/

set_option autoImplicit false
set_option relaxedAutoImplicit false

namespace AnomalyWatch

/-- A detector under the name of its job, with the bounds of its windows. -/
structure Job where
  name : String
  detector : Detector
  bounds : Bounds

/-- The report of a pass. -/
structure Summary where
  jobName : String
  functionId : Nat
  window : Window
  requests : Nat
  knownAnomalies : Nat
  persisted : Nat
  tally : Tally

namespace Pass

/-- What a pass asks of its surroundings. -/
inductive Call
  | store (c : Store.Call)
  | query (request : Request)
  /-- Make sure that the job has a histogram. -/
  | timer (job : String)
  /-- Tell what a key came to. -/
  | visited (job : String) (visit : Visit)

/-- What a call is answered with. -/
abbrev Reply : Call → Type
  | .store c => Store.Reply c
  | .query _ => Except Error SeriesMap
  | .timer _ | .visited _ _ => Unit

abbrev Step (α : Type) : Type := Dialogue Call Reply α

def ask (c : Store.Call) : Step (Store.Reply c) :=
  Dialogue.call (Call.store c)

/-- Roll a transaction back because of a failure; whether that succeeds does not matter. -/
def abandon {α : Type} (ticket : Nat) (cause : Error) : Step (Except Error α) := do
  let _ ← ask (.rollback ticket)
  return .error cause.asStoreFailure

/-- The stored anomalies of a function in a window. -/
def readKnown (lookup : Lookup) : Step (Except Error (List Anomaly)) := do
  match ← ask .begin with
  | .error e => return .error e.asStoreFailure
  | .ok ticket =>
    match ← ask (.find ticket lookup) with
    | .error e => abandon ticket e
    | .ok known =>
      match ← ask (.commit ticket) with
      | .error e => return .error e.asStoreFailure
      | .ok () => return .ok known

/-- Create rows in turn up to the first failure. -/
def createAll (ticket : Nat) : List Anomaly → Step (Except Error Unit)
  | [] => return .ok ()
  | a :: rest => do
    match ← ask (.create ticket a) with
    | .error e => return .error e
    | .ok () => createAll ticket rest

/-- Write all anomalies or none, and tell how many. -/
def persist (results : List Anomaly) : Step (Except Error Nat) :=
  if results.isEmpty then return .ok 0
  else do
    match ← ask .begin with
    | .error e => return .error e.asStoreFailure
    | .ok ticket =>
      match ← createAll ticket results with
      | .error e => abandon ticket e
      | .ok () =>
        match ← ask (.commit ticket) with
        | .error e => return .error e.asStoreFailure
        | .ok () => return .ok results.length

/-- Analyse the keys of a reply in turn. -/
def visitKeys (x : Exploration) (job : String) (o : Outcome) :
    List (DimensionKey × Series) → Step Outcome
  | [] => return o
  | (key, series) :: rest => do
    let visit := x.examine key series
    Dialogue.call (Call.visited job visit)
    visitKeys x job (x.record o visit) rest

def process (x : Exploration) (job : String) (o : Outcome) (request : Request) : Step Outcome := do
  match ← Dialogue.call (Call.query request) with
  | .error _ => return Exploration.refused (Exploration.begun o)
  | .ok reply => visitKeys x job (Exploration.begun o) reply.entries

/-- Process requests in turn. -/
def explore (x : Exploration) (job : String) (o : Outcome) : List Request → Step Outcome
  | [] => return o
  | request :: rest => do
    let o ← process x job o request
    explore x job o rest

end Pass

namespace Job

/-- The rest of a pass whose window and aggregation are sound. -/
def passOver (j : Job) (window : Window) (aggregation : String) :
    Pass.Step (Except Error Summary) := do
  let spec := j.detector.spec
  match ← Pass.readKnown ⟨spec.collection, window.start, window.stop, spec.id⟩ with
  | .error e => return .error e
  | .ok known =>
    let requests := Request.plan spec aggregation window
    Dialogue.call (Pass.Call.timer j.name)
    let o ← Pass.explore ⟨j.detector, window, known⟩ j.name Outcome.initial requests
    match ← Pass.persist o.results with
    | .error e => return .error e
    | .ok persisted =>
      return .ok ⟨j.name, spec.id, window, requests.length, known.length, persisted, o.tally⟩

/-- The window and the aggregation of a pass at an instant. -/
def prepare (j : Job) (now : Instant) : Except Error (Window × String) := do
  let window ← Window.resolve j.detector.spec now j.bounds
  window.validate
  let aggregation ← j.detector.spec.aggregation
  return (window, aggregation)

def pass (j : Job) (now : Instant) : Pass.Step (Except Error Summary) :=
  match j.prepare now with
  | .error e => return .error e
  | .ok (window, aggregation) => j.passOver window aggregation

end Job

end AnomalyWatch
