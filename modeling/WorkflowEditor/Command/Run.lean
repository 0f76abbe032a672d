import WorkflowEditor.Command.Report
import WorkflowEditor.Parameter.Check
import WorkflowEditor.Workflow.File

/-!
# Commands

Each command turns the content of a file, or the configuration, into a report or
an error.  The commands on files load them alike; `validate` also checks the
parameters, and it alone refuses a file that holds no workflow.
-/

namespace WorkflowEditor

/-- Why a command fails. -/
inductive CommandError where
  | load (issues : List Issue)
  | validate (issues : List Issue)
  | noWorkflow
  deriving DecidableEq, Repr

/-- The wording of an error. -/
def CommandError.message : CommandError → String
  | .load issues => "workflow load failed:\n" ++ Report.issues issues
  | .validate issues => "workflow validation failed:\n" ++ Report.issues issues
  | .noWorkflow => "workflow validation failed:\nworkflow file contains no workflow"

/-- Show a workflow as the editor opens it. -/
structure EditorLoadCommand where
  file : String
  permanentId? : Option String
  format : ReportFormat
  deriving DecidableEq, Repr

/-- A command on a file. -/
structure FileCommand where
  file : String
  format : ReportFormat
  deriving DecidableEq, Repr

namespace EditorLoadCommand

/-- The header over a workflow, if the command or the workflow itself gives an
identifier. -/
def header? (command : EditorLoadCommand) (config : EditorConfig) (workflow : Workflow) :
    Option EditorHeader :=
  (command.permanentId?.or workflow.permanentId?).map fun id =>
    .ofId id config.globalWorkflowIds

/-- The report on a workflow. -/
def reportOn (command : EditorLoadCommand) (config : EditorConfig) (workflow : Workflow) :
    String :=
  Report.editor command.format (.ofWorkflow workflow) (command.header? config workflow)

/-- The report; there is nothing to show of a file without a workflow. -/
def report (command : EditorLoadCommand) (config : EditorConfig) (content : FileContent) :
    Except CommandError String :=
  match WorkflowFile.load command.file content with
  | .error issues => .error (.load issues)
  | .ok loaded => .ok (loaded.workflow?.elim "" (command.reportOn config))

/-- What the log says about a workflow. -/
def workflowLog (workflow : Workflow) : LogEntry :=
  let state := EditorState.ofWorkflow workflow
  ⟨.info, "flowdeck_runner::run", 40,
    s!"loaded workflow `{state.title}` with {state.blocks.length} blocks and " ++
      s!"{state.parameters.length} editable parameters"⟩

/-- What the log says. -/
def log (command : EditorLoadCommand) (content : FileContent) : List LogEntry :=
  match WorkflowFile.load command.file content with
  | .error _ => []
  | .ok loaded =>
      loaded.log command.file ++
        [loaded.workflow?.elim
          ⟨.debug, "flowdeck_runner::run", 31,
            s!"no workflow data in `{command.file}`; nothing to render"⟩
          workflowLog]

end EditorLoadCommand

namespace FileCommand

/-- The report on the parameters that the editor shows; a file without a workflow
has none. -/
def parametersReport (command : FileCommand) (content : FileContent) :
    Except CommandError String :=
  match WorkflowFile.load command.file content with
  | .error issues => .error (.load issues)
  | .ok loaded =>
      .ok <| Report.parameters command.format <|
        loaded.workflow?.elim [] fun workflow => EditorParameter.ofParameters workflow.parameters

/-- The verdict on a file. -/
def validReport (command : FileCommand) (content : FileContent) : Except CommandError String :=
  match WorkflowFile.load command.file content with
  | .error issues => .error (.validate issues)
  | .ok loaded =>
      match loaded.workflow? with
      | none => .error .noWorkflow
      | some workflow =>
          let issues := Parameter.check workflow.parameters
          if Issue.hasErrors issues then .error (.validate issues)
          else .ok (Report.valid command.format workflow issues)

/-- What the log says. -/
def log (command : FileCommand) (content : FileContent) : List LogEntry :=
  match WorkflowFile.load command.file content with
  | .error _ => []
  | .ok loaded => loaded.log command.file

end FileCommand

end WorkflowEditor
