import AnomalyWatch.Config.Dotenv
import AnomalyWatch.Metric.Wire
import AnomalyWatch.Program
import AnomalyWatch.Scheduler.Round
import AnomalyWatch.Store.Journal
import Std.Async.DNS
import Std.Async.Signal
import Std.Async.System
import Std.Async.TCP
import Std.Async.Timer
import Std.Sync.Mutex

/-!
The program on a real machine: clock, files, connections and signals.
-/

set_option autoImplicit false
set_option relaxedAutoImplicit false

namespace AnomalyWatch.OnMachine

def clock : IO WallTime := do
  let nanos := (← Std.Time.Timestamp.now).toNanosecondsSinceUnixEpoch.val
  return (WallTime.ofNanos? nanos).getD default

def now : IO Instant := do
  return (← clock).instant

/-- What is at a path, down to the last file. -/
partial def look (path : String) : IO (Option FileTree) := do
  let place := (← IO.currentDir) / path
  if ← place.isDir then
    let names := (← place.readDir).map fun e => e.fileName
    let entries ← names.toList.mapM fun name => do
      return (FileName.ofText name, (← look (path ++ "/" ++ name)).getD FileTree.empty)
    return some (.directory (entries.foldl (fun es e => FileTree.place e.1 e.2 es) []))
  else if ← place.pathExists then return some (.file (← IO.FS.readBinFile place))
  else return none

/-- Turn a failure of the machine into a failure of the program. -/
def attempt {α : Type} (x : IO (Except Error α)) : IO (Except Error α) := do
  try x
  catch e => return .error (.inputOutput (toString e))

def openJournal (path : String) : IO (Except Error Ledger) := attempt do
  let place := (← IO.currentDir) / path
  if let some directory := place.parent then IO.FS.createDirAll directory
  if ← place.pathExists then return Journal.replay path (← IO.FS.readBinFile place)
  else return .ok .empty

def appendJournal (path : String) (rows : List Anomaly) : IO (Except Error Unit) := attempt do
  if !rows.isEmpty then
    let file ← IO.FS.Handle.mk path .append
    file.write (Journal.bytes rows)
    file.flush
  return .ok ()

open Std.Async in
/-- Receive up to the end of the connection. -/
partial def receive (client : TCP.Socket.Client) (bytes : ByteArray) : Async ByteArray := do
  match ← client.recv? 65536 with
  | some more => receive client (bytes ++ more)
  | none => return bytes

open Std.Async in
/-- Exchange a request for a response with the host of an address. -/
def converse (url : Url) (host : String) (port : Nat) : Async Exchange := do
  let addresses ← DNS.getAddrInfo host (toString port)
  match addresses[0]? with
  | none => return .failed "unknown host"
  | some address =>
    let client ← TCP.Socket.Client.mk
    client.connect (match address with
      | .v4 a => .v4 ⟨a, port.toUInt16⟩
      | .v6 a => .v6 ⟨a, port.toUInt16⟩)
    client.send (Wire.request url).toUTF8
    return Wire.exchange (← receive client .empty)

open Std.Async in
/-- Give up after a number of seconds. -/
def expire (seconds : Nat) : Async Exchange := do
  sleep ⟨seconds * 1000⟩
  return .failed "timed out"

instance : Inhabited Exchange := ⟨.failed ""⟩

open Std.Async in
def send (timeout : Nat) (url : Url) : IO Exchange := do
  match String.ofList url.scheme, url.authority with
  | "http", some a =>
    let host := String.ofList (match a.host with
      | .eight groups => Address.eightText groups
      | host => host.chars)
    try (Async.race (converse url host (a.port.getD 80)) (expire timeout)).block
    catch e => return .failed (toString e)
  | _, _ => return .failed "URL scheme is not allowed"

def note : Notice → IO Unit
  | .specsLoaded report => do
    for (path, reason) in report.skipped do
      IO.eprintln ("skipped spec file " ++ path ++ ": " ++ reason)
    for (path, failure) in report.failed do
      IO.eprintln ("failed to load spec file " ++ path ++ ": " ++ failure.message)
    IO.eprintln ("function specs loaded: " ++ toString report.loaded ++ " of " ++
      toString report.total)
  | .resultsInMemory => IO.eprintln "VIGIL_RESULTS_PATH unset, anomalies are kept in memory only"
  | .notStarted id cause =>
    IO.eprintln ("failed to start function " ++ toString id ++ ": " ++ cause.message)
  | .running ids => IO.eprintln ("detector worker running: " ++ toString ids)
  | .stopped count => IO.eprintln ("detector worker stopped: " ++ toString count)

/-- The nanoseconds since the last visit of a key or reply to a query. -/
def lap (last : IO.Ref Nat) : IO Nat := do
  let moment ← IO.monoNanosNow
  let before ← last.swap moment
  return moment - before

/-- Answer a call of a pass, where only the query leaves the site to others. -/
def respond (around : Surroundings IO) (site : Std.Mutex Site) :
    (c : Pass.Call) → IO (Pass.Reply c)
  | .query request => around.query request
  | c => site.atomically do
    let (reply, changed) ← (around.respond c).run (← get)
    set changed
    return reply

/-- Run a pass of a job and tell if it fails. -/
def fire (around : Surroundings IO) (site : Std.Mutex Site) (job : Job) : IO Unit := do
  match ← (job.pass (← now)).run (respond around site) with
  | .ok _ => return ()
  | .error e => IO.eprintln ("job " ++ job.name ++ " failed: " ++ e.message)

/-- Sleep for a number of nanoseconds, unless the task is cancelled. -/
partial def sleep (nanos : Nat) : IO Unit := do
  if nanos = 0 || (← IO.checkCanceled) then return
  let slice := min nanos 200000000
  IO.sleep ((slice + 999999) / 1000000).toUInt32
  sleep (nanos - slice)

/-- Follow the rounds of a trigger until it ends or its task is cancelled. -/
partial def follow (around : Surroundings IO) (site : Std.Mutex Site) (t : Trigger Job) : IO Unit := do
  let tick ← t.schedule.round.run (m := IO) fun
    | .now => clock
    | .sleep nanos => sleep nanos
    | .fire _ => do
      unless ← IO.checkCanceled do
        let _ ← IO.asTask (fire around site t.task)
  if tick.isNone || (← IO.checkCanceled) then return
  follow around site t

/-- The machine the program runs on, with someone who attends to its triggers. -/
def machineWith (last : IO.Ref Nat) (attend : Worker → IO Worker) : Machine IO where
  now := now
  look := look
  openJournal := openJournal
  appendJournal := appendJournal
  send timeout url := do
    let exchange ← send timeout url
    let _ ← lap last
    return exchange
  observe _ := lap last
  note := note
  attend := attend

/-- Let every trigger of a worker fire until the program is interrupted. -/
def attend (last : IO.Ref Nat) (w : Worker) : IO Worker := do
  let around := w.surroundings (machineWith last pure)
  let site ← Std.Mutex.new w.service.site
  let interrupt ← Std.Async.Signal.Waiter.mk .sigint false
  let tasks ← w.service.scheduler.triggers.values.mapM fun t =>
    IO.asTask (follow around site t) .dedicated
  let _ ← (← interrupt.wait).block
  for task in tasks do
    IO.cancel task
  return w

/-- The text of the nearest definition file, in the working directory or above it. -/
partial def dotenv (directory : String) : IO (Option String) := do
  try return some (← IO.FS.readFile (directory ++ "/.env"))
  catch _ =>
    let above := (directory.splitOn "/").dropLast
    if above.isEmpty then return none else dotenv (String.intercalate "/" above)

def environment : IO Environment := do
  let e : Environment := SortedMap.ofList (← Std.Internal.UV.System.osEnviron).toList
  match ← dotenv (← IO.currentDir).toString with
  | some text => return Dotenv.load e text
  | none => return e

end AnomalyWatch.OnMachine

open AnomalyWatch in
def main (arguments : List String) : IO UInt32 := do
  let last ← IO.mkRef (← IO.monoNanosNow)
  let machine := OnMachine.machineWith last (OnMachine.attend last)
  let outcome ← Program.run machine (← OnMachine.environment) arguments
  match outcome with
  | .printed text => IO.print text
  | .failed e => IO.eprintln ("Error: " ++ e.message)
  | .misused text => IO.eprint text
  return outcome.code.toUInt32
