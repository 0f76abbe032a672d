import Mathlib
import WorkflowEditor.Proofs.Command.Agreement

/-!
# What the editor does not show has no influence

Secrets of AWS, outputs, the values of context parameters and the identifier and the
description of a workflow are not shown.  They do not leak through counts or
positions either: `Workflow.Alike` relates workflows that differ in nothing else, and
the commands that show a workflow report the same about the files of both
(`reports_eq_of_alike`).
-/

namespace WorkflowEditor

namespace Parameter

/-- The parameter without the value that a context parameter may hold. -/
def withoutValue : Parameter → Parameter
  | .context parameter => .context { parameter with value? := none }
  | parameter => parameter

/-- The parameters that are neither secrets of AWS nor outputs, without the values of
context parameters. -/
def shown (parameters : List Parameter) : List Parameter :=
  (parameters.filter EditorParameter.isShown).map withoutValue

end Parameter

namespace EditorParameter

theorem ofParameter?_withoutValue (parameter : Parameter) :
    ofParameter? parameter.withoutValue = ofParameter? parameter := by
  cases parameter <;> rfl

theorem ofParameter?_eq_none {parameter : Parameter} (hidden : ¬isShown parameter) :
    ofParameter? parameter = none := by
  rw [← isSome_ofParameter?] at hidden
  exact Option.not_isSome_iff_eq_none.mp hidden

/-- The editor shows the same of the shown parameters as of all of them. -/
theorem ofParameters_shown (parameters : List Parameter) :
    ofParameters (Parameter.shown parameters) = ofParameters parameters := by
  induction parameters with
  | nil => rfl
  | cons parameter rest ih =>
      simp only [ofParameters, Parameter.shown] at ih ⊢
      by_cases visible : isShown parameter
      · rw [List.filter_cons_of_pos visible, List.map_cons, List.filterMap_cons,
          List.filterMap_cons, ofParameter?_withoutValue, ih]
      · rw [List.filter_cons_of_neg visible, List.filterMap_cons_none
          (ofParameter?_eq_none visible), ih]

end EditorParameter

/-- The workflows differ at most in what is not shown: in their identifiers and
descriptions, in the values of context parameters, and in the number, the places and
the content of secrets of AWS and outputs. -/
structure Workflow.Alike (left right : Workflow) : Prop where
  title : left.title = right.title
  persistBrowserSession : left.persistBrowserSession? = right.persistBrowserSession?
  proxyLocation : left.proxyLocation? = right.proxyLocation?
  webhookCallbackUrl : left.webhookCallbackUrl? = right.webhookCallbackUrl?
  permanentId : left.permanentId? = right.permanentId?
  blocks : left.blocks = right.blocks
  parameters : Parameter.shown left.parameters = Parameter.shown right.parameters

namespace Workflow.Alike

variable {left right : Workflow}

theorem ofParameters_eq (alike : left.Alike right) :
    EditorParameter.ofParameters left.parameters = EditorParameter.ofParameters right.parameters := by
  rw [← EditorParameter.ofParameters_shown left.parameters, alike.parameters,
    EditorParameter.ofParameters_shown]

/-- The editor opens with the same state. -/
theorem ofWorkflow_eq (alike : left.Alike right) :
    EditorState.ofWorkflow left = EditorState.ofWorkflow right := by
  have settings : left.settings = right.settings := by
    rw [Workflow.settings, Workflow.settings, alike.persistBrowserSession, alike.proxyLocation,
      alike.webhookCallbackUrl]
  rw [EditorState.ofWorkflow, EditorState.ofWorkflow, alike.title, settings, alike.blocks,
    alike.ofParameters_eq]

/-- The editor's report is the same, also over files of different names. -/
theorem reportOn_eq (alike : left.Alike right) (file other : String)
    (permanentId? : Option String) (format : ReportFormat) (config : EditorConfig) :
    EditorLoadCommand.reportOn ⟨file, permanentId?, format⟩ config left =
      EditorLoadCommand.reportOn ⟨other, permanentId?, format⟩ config right := by
  rw [EditorLoadCommand.reportOn, EditorLoadCommand.reportOn, EditorLoadCommand.header?,
    EditorLoadCommand.header?, alike.ofWorkflow_eq, alike.permanentId]

end Workflow.Alike

/-- Of two files that hold alike workflows the editor and the list of parameters show
the same text, in each format, under each identifier and in each configuration. -/
theorem reports_eq_of_alike {file other : String} {content otherContent : FileContent}
    {left right : Workflow} (loaded : WorkflowFile.workflow? file content = .ok (some left))
    (otherLoaded : WorkflowFile.workflow? other otherContent = .ok (some right))
    (alike : left.Alike right) (format : ReportFormat) :
    (∀ permanentId? config, ∃ text,
      EditorLoadCommand.report ⟨file, permanentId?, format⟩ config content = .ok text ∧
      EditorLoadCommand.report ⟨other, permanentId?, format⟩ config otherContent = .ok text) ∧
    ∃ text, FileCommand.parametersReport ⟨file, format⟩ content = .ok text ∧
      FileCommand.parametersReport ⟨other, format⟩ otherContent = .ok text := by
  constructor
  · intro permanentId? config
    simp only [EditorLoadCommand.report_eq, loaded, otherLoaded]
    refine ⟨_, rfl, ?_⟩
    rw [alike.reportOn_eq file other]
  · simp only [FileCommand.parametersReport_eq, loaded, otherLoaded]
    refine ⟨_, rfl, ?_⟩
    rw [alike.ofParameters_eq]

/-! ## Two files with alike workflows -/

namespace HiddenParameters

/-- A document with a context parameter, which holds a value. -/
def plainDocument : Json :=
  .object [
    ("title", .string "Invoices"),
    ("workflow_definition", .object [
      ("blocks", .array [.object []]),
      ("parameters", .array [
        .object [
          ("key", .string "page"), ("parameter_type", .string "context"),
          ("source", .object [("key", .string "site")]), ("value", .string "home")]])])]

/-- A document with the same context parameter, which holds no value here, a secret of
AWS and an output before it and a description. -/
def secretDocument : Json :=
  .object [
    ("description", .string "Monthly"),
    ("title", .string "Invoices"),
    ("workflow_definition", .object [
      ("blocks", .array [.object []]),
      ("parameters", .array [
        .object [
          ("aws_key", .string "prod"), ("key", .string "token"),
          ("parameter_type", .string "aws_secret")],
        .object [("key", .string "total"), ("parameter_type", .string "output")],
        .object [
          ("key", .string "page"), ("parameter_type", .string "context"),
          ("source", .object [("key", .string "site")])]])])]

/-- The workflow with the parameters. -/
def workflow (description? : Option String) (parameters : List Parameter) : Workflow where
  id? := none
  permanentId? := none
  title := "Invoices"
  description? := description?
  persistBrowserSession? := none
  proxyLocation? := none
  webhookCallbackUrl? := none
  definition := { blocks := [.object []], parameters }

/-- The context parameter of both documents. -/
def page (value? : Option Json) : Parameter :=
  .context { key := "page", description? := none, source := { key := "site" }, value? }

/-- The workflow of the plain document. -/
def plainWorkflow : Workflow := workflow none [page (some (.string "home"))]

/-- The workflow of the document with a secret. -/
def secretWorkflow : Workflow :=
  workflow (some "Monthly") [
    .awsSecret { key := "token", description? := none, awsKey := "prod" },
    .output { key := "total", description? := none }, page none]

theorem workflow?_plain :
    WorkflowFile.workflow? "old" (.ok plainDocument.compact) = .ok (some plainWorkflow) := by
  have format : WorkflowFile.format "old" = .auto := by cbv
  have readsBack : plainDocument.ReadsBack := by decide +kernel
  have read : Workflow.ofJson plainDocument true = .ok plainWorkflow := by decide +kernel
  rw [WorkflowFile.workflow?_of_compact format readsBack ⟨_, rfl⟩, read]
  rfl

theorem workflow?_secret :
    WorkflowFile.workflow? "new" (.ok secretDocument.compact) = .ok (some secretWorkflow) := by
  have format : WorkflowFile.format "new" = .auto := by cbv
  have readsBack : secretDocument.ReadsBack := by decide +kernel
  have read : Workflow.ofJson secretDocument true = .ok secretWorkflow := by decide +kernel
  rw [WorkflowFile.workflow?_of_compact format readsBack ⟨_, rfl⟩, read]
  rfl

theorem alike : plainWorkflow.Alike secretWorkflow := by
  constructor <;> rfl

end HiddenParameters

open HiddenParameters in
/-- The secret, the output, the value and the description leave no trace. -/
theorem reports_eq_of_secret :
    WorkflowFile.workflow? "old" (.ok plainDocument.compact) = .ok (some plainWorkflow) ∧
    WorkflowFile.workflow? "new" (.ok secretDocument.compact) = .ok (some secretWorkflow) ∧
    plainWorkflow.Alike secretWorkflow ∧
    (∀ permanentId? config, ∃ text,
      EditorLoadCommand.report ⟨"old", permanentId?, .json⟩ config
        (.ok plainDocument.compact) = .ok text ∧
      EditorLoadCommand.report ⟨"new", permanentId?, .json⟩ config
        (.ok secretDocument.compact) = .ok text) ∧
    ∃ text,
      FileCommand.parametersReport ⟨"old", .json⟩ (.ok plainDocument.compact) = .ok text ∧
      FileCommand.parametersReport ⟨"new", .json⟩ (.ok secretDocument.compact) = .ok text :=
  ⟨workflow?_plain, workflow?_secret, alike,
    reports_eq_of_alike workflow?_plain workflow?_secret alike .json⟩

end WorkflowEditor
