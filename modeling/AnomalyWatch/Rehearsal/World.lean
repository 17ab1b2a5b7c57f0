import AnomalyWatch.Service.Worker
import AnomalyWatch.Store.JournalFile

/-!
A world for rehearsals: it answers what passes and workers ask of their surroundings from a script, and remembers what
was asked.
-/

set_option autoImplicit false
set_option relaxedAutoImplicit false

namespace AnomalyWatch

/-- The files of the world, the answers a server has left, and what was asked so far. -/
structure World where
  files : FileTree
  exchanges : List Exchange
  requests : List Request
  visits : List Visit
  storeCalls : List Store.Call
  /-- The targets that reached the server. -/
  targets : List String
  notices : List Notice

namespace World

def ofFiles (files : FileTree) (exchanges : List Exchange) : World :=
  ⟨files, exchanges, [], [], [], [], []⟩

/-- A world without anything. -/
def empty : World := ofFiles .empty []

end World

/-- What kind of call on a store it is. -/
def Store.Call.name : Store.Call → String
  | .begin => "begin"
  | .find _ _ => "find"
  | .create _ _ => "create"
  | .commit _ => "commit"
  | .rollback _ => "rollback"
  | .discard _ => "drop"

namespace World

def callCount (w : World) (name : String) : Nat :=
  (w.storeCalls.filter fun c => c.name = name).length

/-- The functions that the worker said are running. -/
def running? (w : World) : Option (List Nat) :=
  w.notices.findSome? fun
    | .running ids => some ids
    | _ => none

/-- How many functions the worker said it stopped. -/
def stopped? (w : World) : Option Nat :=
  w.notices.findSome? fun
    | .stopped count => some count
    | _ => none

/-- The functions that the worker said it could not start. -/
def notStarted (w : World) : List (Nat × Error) :=
  w.notices.filterMap fun
    | .notStarted id cause => some (id, cause)
    | _ => none

def report? (w : World) : Option SpecDirectory.Report :=
  w.notices.findSome? fun
    | .specsLoaded report => some report
    | _ => none

/-- The worker said that it keeps its results in memory. -/
def resultsInMemory (w : World) : Bool :=
  w.notices.any fun
    | .resultsInMemory => true
    | _ => false

end World

abbrev Rehearsal : Type → Type := StateM World

namespace Rehearsal

/-- Take note of a visit, which takes no time. -/
def observe (v : Visit) : Rehearsal Nat := do
  modify fun w => { w with visits := w.visits ++ [v] }
  return 0

def onFiles {α : Type} (f : FileTree → α × FileTree) : Rehearsal α := fun w =>
  let r := f w.files
  (r.1, { w with files := r.2 })

def query (reply : Request → Except Error SeriesMap) (r : Request) :
    Rehearsal (Except Error SeriesMap) := do
  modify fun w => { w with requests := w.requests ++ [r] }
  return reply r

/-- Refuse a call on the store by its name and its number among the calls of that name. -/
def guard (refusal : String → Nat → Option Error) (c : Store.Call) : Rehearsal (Option Error) := do
  modify fun w => { w with storeCalls := w.storeCalls ++ [c] }
  return refusal c.name ((← get).callCount c.name)

/-- Surroundings with a fixed clock and a store in memory. -/
def surroundings (present : Instant) (reply : Request → Except Error SeriesMap)
    (refusal : String → Nat → Option Error) : Surroundings Rehearsal where
  now := pure present
  query := query reply
  append _ := pure (.ok ())
  guard := guard refusal
  observe := observe

/-- Send a request to the server, which gives its answers in turn and then the same one for ever. -/
def send (isServer : Url → Bool) (last : Exchange) (url : Url) : Rehearsal Exchange := do
  if isServer url then
    let w ← get
    set { w with
      exchanges := w.exchanges.drop 1
      targets := w.targets ++ ["GET " ++ String.ofList url.target] }
    return w.exchanges.headD last
  else return .failed "connection refused"

/-- A machine with a fixed clock, on which the worker is told to stop at once. -/
def machine (present : Instant) (isServer : Url → Bool) (last : Exchange) : Machine Rehearsal where
  now := pure present
  look path := do return (← get).files.get? (FileTree.namesOf path)
  openJournal path := onFiles (Journal.openAt path)
  appendJournal path rows := onFiles (Journal.appendAt path rows)
  send _ := send isServer last
  observe := observe
  note n := modify fun w => { w with notices := w.notices ++ [n] }
  attend := pure

end Rehearsal

end AnomalyWatch
