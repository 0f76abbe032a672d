import WorkflowEditor.CommandLine.Invocation
import WorkflowEditor.Log.Filter

/-!
# The program

A run is a function of the arguments, the environment and the files: it ends with
an exit code, a text on the standard output and a text on the standard error.  A
report goes to the output; log lines and messages about failures go to the error.
-/

namespace WorkflowEditor

/-- The content of each file. -/
abbrev FileSystem := String → FileContent

/-- How a run ends. -/
structure Outcome where
  exitCode : Nat
  output : String
  errors : String
  deriving DecidableEq, Repr

namespace Command

/-- The file that a command reads. -/
def file? : Command → Option String
  | .editorLoad command => some command.file
  | .parameters command | .validate command => some command.file
  | .config _ => none

/-- The report of a command. -/
def report (command : Command) (config : EditorConfig) (files : FileSystem) :
    Except CommandError String :=
  match command with
  | .editorLoad command => command.report config (files command.file)
  | .parameters command => command.parametersReport (files command.file)
  | .validate command => command.validReport (files command.file)
  | .config format => .ok (Report.config format config config.issues)

/-- What the log says about a command. -/
def log (command : Command) (files : FileSystem) : List LogEntry :=
  match command with
  | .editorLoad command => command.log (files command.file)
  | .parameters command | .validate command => command.log (files command.file)
  | .config _ => []

end Command

namespace Invocation

/-- The variable that names a log filter. -/
def logVariable : String := "RUST_LOG"

/-- The filter on the log: the environment's, if it names a valid one, or else the one
that the command line asks for. -/
def logFilter (invocation : Invocation) (environment : Environment) : LogFilter :=
  ((environment logVariable).bind LogFilter.ofText?).getD (.ofVerbosity invocation.verbosity)

/-- The target of what the program itself says. -/
def logTarget : String := CommandLine.programName

/-- What the log says about the start of a run. -/
def startLog (invocation : Invocation) (arguments : List String) : List LogEntry :=
  [⟨.debug, logTarget, 11,
      s!"{CommandLine.programName} started with verbosity level: {invocation.verbosity}"⟩,
    ⟨.trace, logTarget, 12,
      "Full CLI args: " ++ Text.quotedList (CommandLine.programName :: arguments)⟩]

/-- What the log says about the configuration. -/
def configLog (environment : Environment) : List LogEntry :=
  EditorConfig.globalIdsLog environment ++
    (EditorConfig.ofEnvironment environment).issues.map fun issue =>
      ⟨.warn, logTarget, 16, issue.message⟩

/-- Everything that a run says about itself. -/
def log (invocation : Invocation) (arguments : List String) (environment : Environment)
    (files : FileSystem) : List LogEntry :=
  invocation.startLog arguments ++ configLog environment ++ invocation.command.log files

/-- Whether the lines of the log show targets. -/
def showsTargets (invocation : Invocation) : Bool := 2 ≤ invocation.verbosity

/-- Whether the lines of the log show where in the source of their target they arise. -/
def showsSourceLines (invocation : Invocation) : Bool := 3 ≤ invocation.verbosity

/-- The lines of the log that pass the filter. -/
def logText (invocation : Invocation) (arguments : List String) (environment : Environment)
    (files : FileSystem) : String :=
  let filter := invocation.logFilter environment
  String.join <|
    ((invocation.log arguments environment files).filter filter.passes).map
      (LogEntry.line invocation.showsTargets invocation.showsSourceLines)

/-- How a run of the invocation ends. -/
def run (invocation : Invocation) (arguments : List String) (environment : Environment)
    (files : FileSystem) : Outcome :=
  let logged := invocation.logText arguments environment files
  match invocation.command.report (.ofEnvironment environment) files with
  | .ok report => ⟨0, if report.isEmpty then "" else report ++ "\n", logged⟩
  | .error error => ⟨1, "", logged ++ error.message ++ "\n"⟩

end Invocation

/-- How a run that stops at its command line ends. -/
def CommandLine.Stop.outcome (stop : CommandLine.Stop) : Outcome :=
  if stop.isAnswer then ⟨0, stop.text, ""⟩ else ⟨2, "", stop.text⟩

/-- How a run ends. -/
def run (arguments : List String) (environment : Environment) (files : FileSystem) : Outcome :=
  match Invocation.parse arguments with
  | .ok invocation => invocation.run arguments environment files
  | .error stop => stop.outcome

end WorkflowEditor
