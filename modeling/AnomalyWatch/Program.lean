import AnomalyWatch.CommandLine.Help
import AnomalyWatch.Document.SummaryRecord
import AnomalyWatch.Service.Worker

/-!
The program: what each command of the worker does and prints.
-/

set_option autoImplicit false
set_option relaxedAutoImplicit false

namespace AnomalyWatch

namespace Program

/-- How a run of the program ends. -/
inductive Outcome
  | printed (text : String)
  | failed (cause : Error)
  | misused (text : String)

def Outcome.code : Outcome → Nat
  | .printed _ => 0
  | .failed _ => 1
  | .misused _ => 2

/-- The outcome of a command line that asks for no run. -/
def refused : CommandLine.Refusal → Outcome
  | .help command => .printed (CommandLine.helpText command)
  | .version => .printed CommandLine.versionText
  | .misuse reason => .misused (CommandLine.misuseText reason)

/-- A configuration with the settings of the command line. -/
def configured (c : Config) (i : Invocation) : Config :=
  { c with
    specDirectory := i.specDirectory.getD c.specDirectory
    serviceUrl := i.serviceUrl.getD c.serviceUrl
    journalPath := i.journalPath <|> c.journalPath }

def specLine (s : Spec) : String :=
  Text.padLeft 6 (toString s.id) ++ "  " ++
    Text.padRight 8 (if s.isActive then "active" else "inactive") ++ "  " ++ s.summary ++ "\n"

/-- The milliseconds from one instant to another. -/
def millisBetween (start stop : Instant) : Nat :=
  ((stop.seconds - start.seconds) * 1000 + ((stop.nanos / 1000000 : Nat) - (start.nanos / 1000000 : Nat) : Int)).toNat

variable {m : Type → Type} [Monad m]

def runOnce (machine : Machine m) (c : Config) (specs : SpecSet) (id : Nat) (start stop : Option String) :
    m Outcome := do
  match ← Worker.build machine c specs with
  | .error e => return .failed e
  | .ok w =>
    let began ← machine.now
    match ← w.runAt machine id start stop began with
    | (.error e, _) => return .failed e
    | (.ok summary, _) =>
      let elapsed := millisBetween began (← machine.now)
      return .printed ((summary.toJson elapsed).pretty ++ "\n")

def execute (machine : Machine m) (c : Config) (command : Command) : m Outcome := do
  let specs ← Worker.loadSpecs machine c.specDirectory
  match command with
  | .list => return .printed (String.join (specs.values.map specLine))
  | .run id start stop => runOnce machine c specs id start stop
  | .serve ids =>
    match ← Worker.serve machine c specs ids with
    | .error e => return .failed e
    | .ok () => return .printed ""

def run (machine : Machine m) (e : Environment) (arguments : List String) : m Outcome :=
  match CommandLine.read arguments with
  | .error r => pure (refused r)
  | .ok i => execute machine (configured (Config.ofEnvironment e) i) i.command

end Program

end AnomalyWatch
