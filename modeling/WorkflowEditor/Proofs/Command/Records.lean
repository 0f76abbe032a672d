import WorkflowEditor.Proofs.Command.Agreement
import WorkflowEditor.Proofs.Issue.OneLine

/-!
# A line for each record

The list of parameters is meant to have a line for each parameter, and a report of
issues a line for each issue.  Lines are put together from texts of the document as
they are, only a default value is written as JSON; so the reports have a line for each
record exactly when those texts hold no line break (`report_lines_iff`).
-/

namespace WorkflowEditor

open Text (OneLine)

/-! ## Parameters -/

namespace EditorParameter

/-- The texts that the details of a parameter show as they are. -/
def detailTexts : EditorParameter → List String
  | .workflow .. => []
  | .context _ sourceParameterKey _ => [sourceParameterKey]
  | .secret _ collectionId identityKey identityFields _ =>
      collectionId :: identityKey :: identityFields
  | .creditCardData _ collectionId itemId _ => [collectionId, itemId]
  | .credential _ collectionId? urlParameterKey _ => collectionId?.toList ++ [urlParameterKey]

/-- The texts that the line of a parameter shows as they are. -/
def shownTexts (parameter : EditorParameter) : List String :=
  parameter.key :: (parameter.detailTexts ++ parameter.description?.toList)

/-- The line starts with the key of the parameter. -/
def Heads (parameter : EditorParameter) (line : String) : Prop :=
  ("- " ++ parameter.key ++ " [").toList <+: line.toList

end EditorParameter

namespace Report

variable {parameter : EditorParameter}

theorem oneLine_parameterDetail_iff :
    OneLine (parameterDetail parameter) ↔ ∀ text ∈ parameter.detailTexts, OneLine text := by
  have labels : OneLine "dataType=" ∧ OneLine " default=" ∧ OneLine "source=" ∧
      OneLine "collection=" ∧ OneLine " identityKey=" ∧ OneLine " identityFields=" ∧
      OneLine " item=" ∧ OneLine " urlParameterKey=" ∧ OneLine "-" := by decide
  have fields : ∀ {pieces : List String}, OneLine (",".intercalate pieces) ↔
      ∀ piece ∈ pieces, OneLine piece := Text.oneLine_intercalate (by decide)
  cases parameter with
  | workflow key dataType defaultValue? description? =>
      have name : OneLine dataType.name := by
        cases dataType <;> decide
      cases defaultValue? with
      | none =>
          simp [parameterDetail, EditorParameter.detailTexts, Text.oneLine_append, labels, name]
      | some value =>
          simp [parameterDetail, EditorParameter.detailTexts, Text.oneLine_append, labels, name,
            value.oneLine_compact]
  | context key sourceParameterKey description? =>
      simp [parameterDetail, EditorParameter.detailTexts, Text.oneLine_append, labels]
  | secret key collectionId identityKey identityFields description? =>
      simp [parameterDetail, EditorParameter.detailTexts, Text.oneLine_append, labels, fields,
        and_assoc]
  | creditCardData key collectionId itemId description? =>
      simp [parameterDetail, EditorParameter.detailTexts, Text.oneLine_append, labels]
  | credential key collectionId? urlParameterKey description? =>
      have collection : OneLine (collectionId?.getD "-") ↔
          ∀ text ∈ collectionId?.toList, OneLine text := by
        cases collectionId? with
        | none => exact iff_of_true (by decide) nofun
        | some collectionId => simp
      simp only [parameterDetail, EditorParameter.detailTexts, Text.oneLine_append, labels,
        collection, true_and, and_true, List.forall_mem_append, List.forall_mem_singleton]

/-- The line of a parameter is one line exactly when the texts are that it shows as they
are. -/
theorem oneLine_parameterLine_iff :
    OneLine (parameterLine parameter) ↔ ∀ text ∈ parameter.shownTexts, OneLine text := by
  have kind : OneLine parameter.kind.name := by
    cases parameter.kind <;> decide
  have marks : OneLine "- " ∧ OneLine " [" ∧ OneLine "] " ∧ OneLine " # " := by decide
  have description :
      OneLine (parameter.description?.elim "" fun description => " # " ++ description) ↔
        ∀ text ∈ parameter.description?.toList, OneLine text := by
    rw [Text.oneLine_elim]
    simp [Text.oneLine_append, marks]
  rw [parameterLine, Text.oneLine_append, description, EditorParameter.shownTexts]
  simp only [Text.oneLine_append, oneLine_parameterDetail_iff, kind, marks, true_and, and_true,
    List.forall_mem_cons, List.forall_mem_append, and_assoc]

theorem heads_parameterLine : parameter.Heads (parameterLine parameter) := by
  rw [EditorParameter.Heads, parameterLine]
  simp only [String.toList_append, List.append_assoc, List.prefix_append_right_inj]
  exact List.prefix_append _ _

theorem parameterLine_ne_empty : parameterLine parameter ≠ "" := by
  intro empty
  have started : parameter.Heads (parameterLine parameter) := heads_parameterLine
  rw [EditorParameter.Heads, empty, String.toList_empty, List.prefix_nil] at started
  simp at started

theorem filled_parameterLines (parameters : List EditorParameter) :
    ∀ record ∈ parameters.map parameterLine, record ≠ "" := by
  intro record member
  obtain ⟨parameter, -, rfl⟩ := List.mem_map.mp member
  exact parameterLine_ne_empty

theorem parametersText_eq_empty_iff {parameters : List EditorParameter} :
    parametersText parameters = "" ↔ parameters = [] := by
  rw [parametersText, ofLines_eq_empty_iff (filled_parameterLines parameters), List.map_eq_nil_iff]

/-- The lines of the list start with the keys of the parameters, one by one, exactly when
no text is shown with a line break. -/
theorem forall₂_heads_iff {parameters : List EditorParameter} :
    List.Forall₂ EditorParameter.Heads parameters (lines (parametersText parameters)) ↔
      ∀ parameter ∈ parameters, ∀ text ∈ parameter.shownTexts, OneLine text := by
  have filled := filled_parameterLines parameters
  have each : (∀ record ∈ parameters.map parameterLine, OneLine record) ↔
      ∀ parameter ∈ parameters, ∀ text ∈ parameter.shownTexts, OneLine text := by
    simp only [List.forall_mem_map, oneLine_parameterLine_iff]
  rw [← each]
  constructor
  · intro headed
    refine (length_lines_ofLines filled).2.mp ?_
    rw [List.length_map]
    exact headed.length_eq.symm
  · intro oneLine
    rw [parametersText, lines_ofLines_of_oneLine filled oneLine, List.forall₂_map_right_iff,
      List.forall₂_same]
    exact fun _ _ => heads_parameterLine

/-! ## Issues -/

theorem filled_issueLines (found : List Issue) :
    ∀ record ∈ found.map fun issue => "  " ++ issue.display, record ≠ "" := by
  intro record member empty
  obtain ⟨issue, -, rfl⟩ := List.mem_map.mp member
  have chars := congrArg String.toList empty
  simp at chars

/-- A report of framed issues has a line for each of them exactly when no message holds
a line break, and never fewer. -/
theorem length_lines_issues {found : List Issue} (framed : ∀ issue ∈ found, issue.Framed) :
    found.length ≤ (lines (issues found)).length ∧
      ((lines (issues found)).length = found.length ↔
        ∀ issue ∈ found, OneLine issue.message) := by
  have ⟨enough, exact⟩ := length_lines_ofLines (filled_issueLines found)
  have indented : OneLine "  " := by decide
  rw [List.length_map] at enough exact
  refine ⟨enough, exact.trans ?_⟩
  rw [List.forall_mem_map]
  refine forall₂_congr fun issue member => ?_
  rw [Text.oneLine_append, (framed issue member).oneLine_display_iff, and_iff_right indented]

end Report

/-! ## Commands -/

/-- A command on the file fails on the issues. -/
inductive FailsOn (file : String) (content : FileContent) (issues : List Issue) : Prop where
  | editorLoad (permanentId? : Option String) (format : ReportFormat) (config : EditorConfig)
      (failed : EditorLoadCommand.report ⟨file, permanentId?, format⟩ config content =
        .error (.load issues))
  | parameters (format : ReportFormat)
      (failed : FileCommand.parametersReport ⟨file, format⟩ content = .error (.load issues))
  | validate (format : ReportFormat)
      (failed : FileCommand.validReport ⟨file, format⟩ content = .error (.validate issues))

/-- A command fails on the issues of loading the file or of checking its parameters. -/
theorem FailsOn.cause {file : String} {content : FileContent} {issues : List Issue}
    (fails : FailsOn file content issues) :
    WorkflowFile.workflow? file content = .error issues ∨
      ∃ parameters, issues = Parameter.check parameters := by
  cases loaded : WorkflowFile.workflow? file content with
  | error found =>
      cases fails with
      | editorLoad permanentId? format config failed =>
          rw [EditorLoadCommand.report_eq, loaded] at failed
          cases failed
          exact Or.inl rfl
      | parameters format failed =>
          rw [FileCommand.parametersReport_eq, loaded] at failed
          cases failed
          exact Or.inl rfl
      | validate format failed =>
          rw [FileCommand.validReport_eq, loaded] at failed
          cases failed
          exact Or.inl rfl
  | ok workflow? =>
      cases fails with
      | editorLoad permanentId? format config failed =>
          rw [EditorLoadCommand.report_eq, loaded] at failed
          cases workflow? <;> contradiction
      | parameters format failed =>
          rw [FileCommand.parametersReport_eq, loaded] at failed
          cases workflow? <;> contradiction
      | validate format failed =>
          rw [FileCommand.validReport_eq, loaded] at failed
          cases workflow? with
          | none => cases failed
          | some workflow =>
              dsimp only at failed
              split at failed
              · cases failed
                exact Or.inr ⟨workflow.parameters, rfl⟩
              · contradiction

theorem FailsOn.framed {file : String} {content : FileContent} {issues : List Issue}
    (fails : FailsOn file content issues) : ∀ issue ∈ issues, issue.Framed := by
  rcases fails.cause with failed | ⟨parameters, rfl⟩
  · exact WorkflowFile.framed_of_workflow? failed
  · exact fun issue => Parameter.framed_of_mem_check

/-- The parameters that the editor shows of what a file holds. -/
def shownParameters (workflow? : Option Workflow) : List EditorParameter :=
  workflow?.elim [] fun workflow => EditorParameter.ofParameters workflow.parameters

theorem parametersReport_text {file : String} {content : FileContent}
    {workflow? : Option Workflow} (loaded : WorkflowFile.workflow? file content = .ok workflow?) :
    FileCommand.parametersReport ⟨file, .text⟩ content =
      .ok (Report.parametersText (shownParameters workflow?)) := by
  rw [FileCommand.parametersReport_eq, loaded]
  cases workflow? <;> rfl

/-- The list of a file's parameters is empty when none is shown.  It has a line for each
parameter, which starts with its key, exactly when the keys, descriptions and other
texts that lines show as they are hold no line break; a default value never adds a line.
The report of the issues on which a command fails has a line for each of them exactly
when their messages hold no line break, which those of JSON syntax errors and violations
of the schema never do. -/
theorem report_lines_iff (file : String) (content : FileContent) :
    (∀ workflow?, WorkflowFile.workflow? file content = .ok workflow? →
      ∃ report, FileCommand.parametersReport ⟨file, .text⟩ content = .ok report ∧
        (Report.lines report = [] ↔ shownParameters workflow? = []) ∧
        (List.Forall₂ EditorParameter.Heads (shownParameters workflow?) (Report.lines report) ↔
          ∀ parameter ∈ shownParameters workflow?, ∀ text ∈ parameter.shownTexts,
            OneLine text)) ∧
    ∀ issues, FailsOn file content issues →
      ((Report.lines (Report.issues issues)).length = issues.length ↔
        ∀ issue ∈ issues, OneLine issue.message) ∧
      ∀ issue ∈ issues, issue.reference? = some "json.parse_error" ∨
        issue.reference? = some "json_schema.validation" → OneLine issue.message := by
  constructor
  · intro workflow? loaded
    refine ⟨_, parametersReport_text loaded, ?_, Report.forall₂_heads_iff⟩
    rw [← Report.parametersText_eq_empty_iff]
    constructor
    · exact not_imp_not.mp Report.lines_ne_nil
    · intro empty
      rw [empty]
      rfl
  · intro issues fails
    exact ⟨(Report.length_lines_issues fails.framed).2,
      fun issue member => (fails.framed issue member).fixed⟩

/-! ## Files that forge lines -/

namespace ForgedLines

/-- A description that goes on like the line of another parameter. -/
def description : String := "first\n- forged [workflow] dataType=string"

/-- A document whose one parameter has the description. -/
def describedDocument : Json :=
  .object [
    ("title", .string "Invoices"),
    ("workflow_definition", .object [
      ("blocks", .array []),
      ("parameters", .array [
        .object [
          ("description", .string description), ("key", .string "page"),
          ("parameter_type", .string "context"),
          ("source", .object [("key", .string "site")])]])])]

/-- The parameter of the document. -/
def describedParameter : Parameter :=
  .context {
    key := "page", description? := some description, source := { key := "site" },
    value? := none }

/-- The workflow of the document. -/
def describedWorkflow : Workflow where
  id? := none
  permanentId? := none
  title := "Invoices"
  description? := none
  persistBrowserSession? := none
  proxyLocation? := none
  webhookCallbackUrl? := none
  definition := { blocks := [], parameters := [describedParameter] }

/-- A document with a parameter of an unknown kind, whose name is not one line. -/
def unknownDocument : Json :=
  .object [
    ("title", .string "Invoices"),
    ("workflow_definition", .object [
      ("blocks", .array []),
      ("parameters", .array [
        .object [("key", .string "page"), ("parameter_type", .string "a\nb")]])])]

/-- The issue of the document's parameter. -/
def unknownIssue : Issue :=
  .withParameterKey
    (.error "parse_error" ((Parameter.path 0).key "parameter_type")
      "unsupported parameter_type `a\nb`" "parse.unknown_parameter_type")
    "page"

theorem format_flow : WorkflowFile.format "flow" = .auto := by cbv

theorem workflow?_described :
    WorkflowFile.workflow? "flow" (.ok describedDocument.compact) =
      .ok (some describedWorkflow) := by
  have readsBack : describedDocument.ReadsBack := by decide +kernel
  have read : Workflow.ofJson describedDocument true = .ok describedWorkflow := by
    decide +kernel
  rw [WorkflowFile.workflow?_of_compact format_flow readsBack ⟨_, rfl⟩, read]
  rfl

/-- The description is shown, and it is not one line. -/
theorem broken_description :
    ¬∀ parameter ∈ shownParameters (some describedWorkflow), ∀ text ∈ parameter.shownTexts,
      OneLine text := by
  intro oneLine
  have shown := oneLine (.context "page" "site" (some description)) (by decide) description
    (by decide)
  exact absurd shown (by decide)

/-- Loading the file with the unknown kind fails on one issue. -/
theorem failsOn_unknown :
    FailsOn "flow" (.ok unknownDocument.compact) [WorkflowFile.relate "flow" unknownIssue] := by
  have readsBack : unknownDocument.ReadsBack := by decide +kernel
  have rejected : Workflow.ofJson unknownDocument true = .error [unknownIssue] := by
    decide +kernel
  have loaded : WorkflowFile.workflow? "flow" (.ok unknownDocument.compact) =
      .error [WorkflowFile.relate "flow" unknownIssue] := by
    rw [WorkflowFile.workflow?_of_compact format_flow readsBack ⟨_, rfl⟩, rejected]
    rfl
  apply FailsOn.parameters .text
  rw [FileCommand.parametersReport_eq, loaded]

/-- The message of the issue is not one line. -/
theorem broken_unknownIssue :
    ¬∀ issue ∈ [WorkflowFile.relate "flow" unknownIssue], OneLine issue.message := by
  intro oneLine
  exact absurd (oneLine _ List.mem_cons_self) (by decide)

end ForgedLines

open ForgedLines in
/-- The forged description adds a line to the list of parameters, and the unknown kind
adds one to the report of its issue. -/
theorem report_lines_forged :
    (∃ report,
      FileCommand.parametersReport ⟨"flow", .text⟩ (.ok describedDocument.compact) = .ok report ∧
      ¬List.Forall₂ EditorParameter.Heads (shownParameters (some describedWorkflow))
        (Report.lines report)) ∧
    FailsOn "flow" (.ok unknownDocument.compact) [WorkflowFile.relate "flow" unknownIssue] ∧
    (Report.lines (Report.issues [WorkflowFile.relate "flow" unknownIssue])).length ≠ 1 := by
  refine ⟨?_, failsOn_unknown, ?_⟩
  · obtain ⟨report, reported, -, headed⟩ :=
      (report_lines_iff "flow" (.ok describedDocument.compact)).1 _ workflow?_described
    exact ⟨report, reported, mt headed.mp broken_description⟩
  · have lines := ((report_lines_iff "flow" (.ok unknownDocument.compact)).2 _ failsOn_unknown).1
    exact mt lines.mp broken_unknownIssue

open ForgedLines in
/-- Not every list of parameters has a line for each, and not every report of issues
has. -/
theorem not_forall_line_for_each :
    (¬∀ file content workflow?, WorkflowFile.workflow? file content = .ok workflow? →
      ∃ report, FileCommand.parametersReport ⟨file, .text⟩ content = .ok report ∧
        (Report.lines report).length = (shownParameters workflow?).length) ∧
    ¬∀ file content issues, FailsOn file content issues →
      (Report.lines (Report.issues issues)).length = issues.length := by
  constructor
  · intro lineForEach
    obtain ⟨report, reported, same⟩ := lineForEach "flow" _ _ workflow?_described
    rw [parametersReport_text workflow?_described] at reported
    cases reported
    have records := (Report.length_lines_ofLines (Report.filled_parameterLines
      (shownParameters (some describedWorkflow)))).2.mp (by rw [List.length_map]; exact same)
    apply broken_description
    intro parameter member
    exact Report.oneLine_parameterLine_iff.mp (records _ (List.mem_map_of_mem member))
  · intro lineForEach
    have same := lineForEach "flow" _ _ failsOn_unknown
    exact broken_unknownIssue ((Report.length_lines_issues failsOn_unknown.framed).2.mp same)

end WorkflowEditor
