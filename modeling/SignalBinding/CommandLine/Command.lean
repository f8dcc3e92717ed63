import SignalBinding.CommandLine.Arguments
import SignalBinding.Session.Run

/-!
# Commands

A command line from its arguments to what the user gets: an exit code, the texts that have no file
on standard output, and messages on standard error.

## Main definitions

- `CommandResult`: how a command ends
- `Session.command`: the command of some arguments
-/

namespace SignalBinding

/-- How a command ends. -/
structure CommandResult where
  exitCode : Nat
  /-- The text on standard output. -/
  output : String := ""
  deriving DecidableEq, Repr, Inhabited

namespace CommandLine

/-- Lines with an end each. -/
def lines (ls : List String) : String :=
  String.join (ls.map (· ++ "\n"))

def helpText : String :=
  lines [
    "usage: signalgen [-h] [-v] \x7bgenerate\x7d ...",
    "",
    "Generate C++ connect helpers for Qt signals declared in a bridge description.",
    "",
    "positional arguments:",
    "  \x7bgenerate\x7d",
    "    generate     Generate signal declarations and connect helpers.",
    "",
    "options:",
    "  -h, --help     show this help message and exit",
    "  -v, --verbose  Increase log verbosity for troubleshooting."]

def generateHelpText : String :=
  lines [
    "usage: signalgen generate [-h] [-v] [--config CONFIG] [--header HEADER]",
    "                          [--source SOURCE]",
    "                          bridge",
    "",
    "positional arguments:",
    "  bridge           Path to the YAML bridge description.",
    "",
    "options:",
    "  -h, --help       show this help message and exit",
    "  -v, --verbose    Increase log verbosity for troubleshooting.",
    "  --config CONFIG  Path to .signalgen.yml (defaults to the bridge's",
    "                   directory).",
    "  --header HEADER  Write declarations to this file instead of stdout.",
    "  --source SOURCE  Write definitions to this file instead of stdout."]

/-- The argument, unless it is missing or empty. -/
def nonempty (argument? : Option String) : Option String :=
  argument?.filter (· ≠ "")

/-- The path of the bridge. -/
def Generate.bridgePath (g : Generate) (home : Path) : Path :=
  (Path.ofText g.bridge).expandHome home

/-- Where the configuration is looked for: in the folder of the bridge unless a path is given. -/
def Generate.configPath (g : Generate) (folder home : Path) : Path :=
  match nonempty g.config? with
  | some p => Path.ofText p
  | none => ((g.bridgePath home).resolve folder).parent

/-- The files of the texts: those that are given before those of the configuration. -/
def Generate.targets (g : Generate) (c : Config) : Option Path × Option Path :=
  ((g.header?.map Path.ofText).orElse fun _ => c.header?,
    (g.source?.map Path.ofText).orElse fun _ => c.source?)

/-- The texts of a report that have no file; a line end parts them if there are two. -/
def outputText (r : Report) (headerHasFile sourceHasFile : Bool) : String :=
  match headerHasFile, sourceHasFile with
  | false, false =>
    if r.header ≠ "" ∧ r.source ≠ "" then r.header ++ "\n" ++ r.source else r.header ++ r.source
  | false, true => r.header
  | true, false => r.source
  | true, true => ""

/-- The message about the signals that a report leaves out. -/
def skippedMessage (r : Report) : String :=
  "signalgen generate failed for: " ++ ", ".intercalate (r.skipped.map Skipped.label) ++ "\n"

/-- The message for a run that a failure ends, if users are told about it. -/
def runMessage? : Failure → Option String
  | .bridgeMissing path => (Failure.bridgeMissing path).message?.map (· ++ "\n")
  | e => e.message?.map fun message =>
    "signalgen generate failed: " ++ message ++ "\nRun with --verbose for more details.\n"

end CommandLine

namespace Session

open CommandLine

/-- Ends with a message and the exit code of a failure. -/
def complain (message : String) : Session CommandResult := do
  modify fun w => w.show message
  return { exitCode := 1 }

/-- Does `step`; a failure that `message?` has a text for ends the command instead. -/
def orComplain {α : Type} (message? : Failure → Option String) (step : Session α)
    (next : α → Session CommandResult) : Session CommandResult := do
  let result ← tryCatch (Except.ok <$> step) fun e => return Except.error e
  match result with
  | .ok a => next a
  | .error e =>
    match message? e with
    | some message => complain message
    | none => throw e

/-- The end of a command whose run has made a report. -/
def finish (r : Report) (headerHasFile sourceHasFile : Bool) : Session CommandResult := do
  let output := outputText r headerHasFile sourceHasFile
  if r.ok then return { exitCode := 0, output }
  else
    modify fun w => w.show (skippedMessage r)
    return { exitCode := 1, output }

/-- The command `generate`. -/
def generateCommand (g : Generate) : Session CommandResult := do
  let w ← get
  let configPath := g.configPath w.folder w.home
  orComplain (fun e => e.message?.map (· ++ "\n")) (loadConfig configPath) fun c => do
    setUpLog (g.verbose || c.verbose) c.logFile?
    let (header?, source?) := g.targets c
    let request : RunRequest := {
      bridge := g.bridgePath w.home, config := .given c
      header? := g.header?.map Path.ofText, source? := g.source?.map Path.ofText }
    orComplain runMessage? (run request) fun r => finish r header?.isSome source?.isSome

/-- The command of some arguments. -/
def command (arguments : List String) : Session CommandResult :=
  match Request.ofArguments arguments with
  | .generate g => generateCommand g
  | .help => return { exitCode := 0, output := helpText }
  | .generateHelp => return { exitCode := 0, output := generateHelpText }
  | .mistake => return { exitCode := 2 }

end Session

end SignalBinding
