import AnomalyWatch.Collection.Sorted
import AnomalyWatch.Text.Digits

/-!
The command line of the worker: options for all commands, and a command with options of its own.

The options for all commands may stand before and after the command; what stands after it counts. An option takes the
next argument or the text after an equals sign as its value. Arguments are read from the left, and the first that does
not fit, or that asks for help, decides.
-/

set_option autoImplicit false
set_option relaxedAutoImplicit false

namespace AnomalyWatch

/-- What the program is to do. -/
inductive Command
  /-- Run until interrupted; the functions to start, or none for all that are active. -/
  | serve (functions : List Nat)
  /-- Run one pass of a function. -/
  | run (function : Nat) (start stop : Option String)
  | list
  deriving DecidableEq, Repr

/-- A command and the settings that override the configuration. -/
structure Invocation where
  specDirectory : Option String
  serviceUrl : Option String
  journalPath : Option String
  command : Command
  deriving DecidableEq, Repr

namespace CommandLine

/-- Why there is no invocation. -/
inductive Refusal
  /-- Help was asked for, about a command or about the program. -/
  | help (command : Option String)
  | version
  | misuse (reason : String)
  deriving DecidableEq, Repr

/-- How the values of an option are read. -/
inductive OptionKind
  | text
  /-- A text that is not empty. -/
  | path
  | number
  deriving DecidableEq, Repr

/-- An option by its long name. -/
structure OptionRule where
  name : String
  kind : OptionKind
  /-- The option may stand several times. -/
  repeats : Bool
  required : Bool
  /-- The name of the value in the help text. -/
  valueName : String
  summary : String

/-- The options of every command. -/
def globalOptions : List OptionRule := [
  ⟨"specs-dir", .path, false, false, "SPECS_DIR",
    "Directory of function spec YAML files (overrides VIGIL_SPECS_DIR)"⟩,
  ⟨"metric-url", .text, false, false, "METRIC_URL",
    "Base URL of the metric query service (overrides VIGIL_METRIC_URL)"⟩,
  ⟨"results-path", .path, false, false, "RESULTS_PATH",
    "JSON-lines file anomalies are persisted to (overrides VIGIL_RESULTS_PATH)"⟩]

/-- A command with its own options. -/
structure CommandRule where
  name : String
  summary : String
  options : List OptionRule

def commands : List CommandRule := [
  ⟨"serve", "Schedule functions and run until interrupted",
    [⟨"function", .number, true, false, "FUNCTIONS",
      "Only start these function ids (default: every active spec)"⟩]⟩,
  ⟨"run", "Run one detection pass inline and print its summary",
    [⟨"function", .number, false, true, "FUNCTION", ""⟩,
      ⟨"start", .text, false, false, "START", "Window start (ISO-8601)"⟩,
      ⟨"end", .text, false, false, "END", "Window end (ISO-8601)"⟩]⟩,
  ⟨"list", "List loaded function specs", []⟩]

/-- A command by its name. -/
def commandRule? (name : String) : Option CommandRule :=
  commands.find? (·.name = name)

/-! ### Reading -/

/-- The values that were given, each under the name of its option, in their order. -/
abbrev Values : Type := List (String × String)

def Values.of (vs : Values) (name : String) : List String :=
  (vs.filter (·.1 = name)).map Prod.snd

/-- The value of an option that stands at most once. -/
def Values.last? (vs : Values) (name : String) : Option String :=
  (vs.of name).getLast?

def Values.numbers (vs : Values) (name : String) : List Nat :=
  (vs.of name).filterMap fun v => Text.word? v.toList

def accepts (kind : OptionKind) (value : String) : Bool :=
  match kind with
  | .text => true
  | .path => !value.isEmpty
  | .number => (Text.word? value.toList).isSome

def store (rules : List OptionRule) (vs : Values) (name value : String) : Except Refusal Values :=
  match rules.find? (·.name = name) with
  | none => .error (.misuse ("unexpected argument '--" ++ name ++ "' found"))
  | some rule =>
    if !accepts rule.kind value then
      .error (.misuse ("invalid value '" ++ value ++ "' for '--" ++ name ++ "'"))
    else if !rule.repeats && vs.any (·.1 = name) then
      .error (.misuse ("the argument '--" ++ name ++ "' cannot be used multiple times"))
    else .ok (vs ++ [(name, value)])

/-- The argument may be the value of an option in front of it. -/
def isValue (argument : String) : Bool :=
  match argument.toList with
  | '-' :: _ :: _ => false
  | _ => true

/-- What an argument is. -/
inductive Shape
  | long (name : String) (value : Option String)
  | short (letters : List Char)
  /-- Two dashes alone. -/
  | close
  | word
  deriving DecidableEq, Repr

/-- What an argument is. -/
def shape (argument : String) : Shape :=
  match argument.toList with
  | ['-', '-'] => .close
  | '-' :: '-' :: cs =>
    let name := String.ofList (cs.takeWhile (· ≠ '='))
    match cs.dropWhile (· ≠ '=') with
    | _ :: value => .long name (some (String.ofList value))
    | [] => .long name none
  | '-' :: c :: cs => .short (c :: cs)
  | _ => .word

/-- Where arguments are read: behind a command, or in front of it. -/
structure Level where
  command : Option String
  rules : List OptionRule

/-- The answer to an option that asks for something else than a run. -/
def Level.special? (l : Level) (name : String) : Option Refusal :=
  if name = "help" then some (.help l.command)
  else if name = "version" && l.command.isNone then some .version
  else none

def Level.letter (l : Level) (letters : List Char) : Refusal :=
  match letters with
  | 'h' :: _ => .help l.command
  | 'V' :: _ => if l.command.isNone then .version else .misuse "unexpected argument '-V' found"
  | _ => .misuse ("unexpected argument '-" ++ String.ofList letters ++ "' found")

/-- The answer to an option with no value behind it. -/
def Level.withoutValue (l : Level) (name : String) : Refusal :=
  if l.rules.any (·.name = name) then
    .misuse ("a value is required for '--" ++ name ++ "' but none was supplied")
  else .misuse ("unexpected argument '--" ++ name ++ "' found")

/-- Read options up to the first word; the rest starts with that word. -/
def Level.read (l : Level) (vs : Values) : List String → Except Refusal (Values × List String)
  | [] => .ok (vs, [])
  | a :: rest =>
    match shape a with
    | .word => .ok (vs, a :: rest)
    | .close =>
      match rest with
      | [] => .ok (vs, [])
      | b :: _ => .error (.misuse ("unexpected argument '" ++ b ++ "' found"))
    | .short letters => .error (l.letter letters)
    | .long name (some value) =>
      if (l.special? name).isSome then
        .error (.misuse ("unexpected value '" ++ value ++ "' for '--" ++ name ++ "' found"))
      else
        match store l.rules vs name value with
        | .error r => .error r
        | .ok vs => l.read vs rest
    | .long name none =>
      match l.special? name, rest with
      | some refusal, _ => .error refusal
      | none, value :: rest =>
        if isValue value then
          match store l.rules vs name value with
          | .error r => .error r
          | .ok vs => l.read vs rest
        else .error (l.withoutValue name)
      | none, [] => .error (l.withoutValue name)

def command? (name : String) (vs : Values) : Option Command :=
  match name with
  | "serve" => some (.serve (vs.numbers "function"))
  | "run" => (vs.numbers "function").head?.map fun id => .run id (vs.last? "start") (vs.last? "end")
  | "list" => some .list
  | _ => none

/-- What the word `help` in the place of a command asks for. -/
def helpCommand : List String → Refusal
  | [] => .help none
  | name :: _ =>
    match commandRule? name with
    | some rule => .help (some rule.name)
    | none =>
      if name = "help" then .help none
      else .misuse ("unrecognized subcommand '" ++ name ++ "'")

def readCommand (front : Values) (rule : CommandRule) (arguments : List String) :
    Except Refusal Invocation := do
  let level : Level := ⟨some rule.name, rule.options ++ globalOptions⟩
  let (own, rest) ← level.read [] arguments
  match rest with
  | a :: _ => .error (.misuse ("unexpected argument '" ++ a ++ "' found"))
  | [] =>
    match command? rule.name own with
    | none => .error (.misuse "a required argument was not provided")
    | some command =>
      let setting (name : String) : Option String := own.last? name <|> front.last? name
      return ⟨setting "specs-dir", setting "metric-url", setting "results-path", command⟩

def read (arguments : List String) : Except Refusal Invocation := do
  let (front, rest) ← (⟨none, globalOptions⟩ : Level).read [] arguments
  match rest with
  | [] => .error (.misuse "a command is required")
  | "help" :: rest => .error (helpCommand rest)
  | name :: rest =>
    match commandRule? name with
    | some rule => readCommand front rule rest
    | none => .error (.misuse ("unrecognized subcommand '" ++ name ++ "'"))

end CommandLine

end AnomalyWatch
