import AnomalyWatch.CommandLine
import AnomalyWatch.Text.Blank

/-!
The help texts of the command line.
-/

set_option autoImplicit false
set_option relaxedAutoImplicit false

namespace AnomalyWatch.CommandLine

def programName : String := "detector-worker"

def versionText : String := programName ++ " 0.1.0\n"

/-- An entry of the list of options: the option, and on the next line what it is for. -/
def optionEntry (head summary : String) : String :=
  head ++ "\n          " ++ summary ++ "\n"

def OptionRule.entry (r : OptionRule) : String :=
  optionEntry ("      --" ++ r.name ++ " <" ++ r.valueName ++ ">") r.summary

/-- The options of a command among those of all commands: place by place, and by name within a place. -/
def interleave : List OptionRule → List OptionRule → List OptionRule
  | a :: as, b :: bs =>
    if a.name < b.name then a :: b :: interleave as bs else b :: a :: interleave as bs
  | [], bs => bs
  | as, [] => as

def optionList (rules : List OptionRule) : String :=
  "Options:\n" ++ String.join (rules.map OptionRule.entry) ++
    optionEntry "  -h, --help" "Print help"

def commandList : String :=
  let line (name summary : String) := "  " ++ Text.padRight 5 name ++ "  " ++ summary ++ "\n"
  "Commands:\n" ++ String.join (commands.map fun c => line c.name c.summary) ++
    line "help" "Print this message or the help of the given subcommand(s)"

/-- How a command is called. -/
def CommandRule.usage (c : CommandRule) : String :=
  let required := (c.options.filter OptionRule.required).map fun r =>
    " --" ++ r.name ++ " <" ++ r.valueName ++ ">"
  "Usage: " ++ programName ++ " " ++ c.name ++ " [OPTIONS]" ++ String.join required

/-- How the program is called. -/
def usage : String :=
  "Usage: " ++ programName ++ " [OPTIONS] <COMMAND>"

def programHelp : String :=
  "Scheduled anomaly detection worker\n\n" ++ usage ++ "\n\n" ++ commandList ++ "\n" ++
    optionList globalOptions ++ optionEntry "  -V, --version" "Print version"

def CommandRule.help (c : CommandRule) : String :=
  c.summary ++ "\n\n" ++ c.usage ++ "\n\n" ++ optionList (interleave c.options globalOptions)

/-- The help about a command or about the program. -/
def helpText (command : Option String) : String :=
  match command.bind commandRule? with
  | some rule => rule.help
  | none => programHelp

def misuseText (reason : String) : String :=
  "error: " ++ reason ++ "\n\n" ++ usage ++ "\n\nFor more information, try '--help'.\n"

end AnomalyWatch.CommandLine
