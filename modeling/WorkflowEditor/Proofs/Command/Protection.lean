import Mathlib
import WorkflowEditor.Proofs.Command.Agreement
import WorkflowEditor.Proofs.Json.Blank

/-!
# Shared workflows are protected

An environment shares the identifiers that stand as strings in the JSON array of its
variable.  Whether the editor lets a workflow be saved depends on nothing else than
whether the identifier in effect is shared; both formats say so, and say nothing else
that depends on the environment (`EditorLoadCommand.protects_shared`).
-/

namespace WorkflowEditor

/-! ## Shared identifiers -/

namespace Environment

variable {environment : Environment}

/-- The variable with the shared workflows holds a JSON array with that string. -/
def Shares (environment : Environment) (id : String) : Prop :=
  ∃ raw items, environment EditorConfig.globalWorkflowIdsName = some raw ∧
    Json.parse raw = .ok (.array items) ∧ .string id ∈ items

/-- The variable with the shared workflows is not set, or its text is blank, is not JSON
or writes another value than an array. -/
inductive ListsNone (environment : Environment) : Prop where
  | unset (unset : environment EditorConfig.globalWorkflowIdsName = none)
  | blank {raw : String} (set : environment EditorConfig.globalWorkflowIdsName = some raw)
      (empty : Text.trim raw = "")
  | malformed {raw : String} {error : Json.SyntaxError}
      (set : environment EditorConfig.globalWorkflowIdsName = some raw)
      (refused : Json.parse raw = .error error)
  | notArray {raw : String} {value : Json}
      (set : environment EditorConfig.globalWorkflowIdsName = some raw)
      (read : Json.parse raw = .ok value) (other : ∀ items, value ≠ .array items)

theorem ListsNone.not_shares (lists : environment.ListsNone) (id : String) :
    ¬environment.Shares id := by
  rintro ⟨raw, items, isSet, read, -⟩
  cases lists with
  | unset unset =>
      rw [unset] at isSet
      contradiction
  | blank set empty =>
      cases set.symm.trans isSet
      have visible := Json.isBlank_of_parse read
      rw [(Text.isBlank_iff_trim_eq raw).mpr empty] at visible
      contradiction
  | malformed set refused =>
      cases set.symm.trans isSet
      rw [read] at refused
      contradiction
  | notArray set readOther other =>
      cases set.symm.trans isSet
      rw [read] at readOther
      exact other items (Except.ok.inj readOther).symm

end Environment

theorem Json.mem_filterMap_text?_iff {items : List Json} {text : String} :
    text ∈ items.filterMap Json.text? ↔ .string text ∈ items := by
  rw [List.mem_filterMap]
  constructor
  · rintro ⟨item, member, isText⟩
    cases item with
    | string other =>
        cases isText
        exact member
    | _ => contradiction
  · exact fun member => ⟨.string text, member, rfl⟩

namespace EditorConfig

/-- Of an array that a text writes, the strings are kept. -/
theorem parseGlobalIds_of_array {raw : String} {items : List Json}
    (parsed : Json.parse raw = .ok (.array items)) :
    parseGlobalIds raw = .ok (items.filterMap Json.text?) := by
  rw [parseGlobalIds, Json.isBlank_of_parse parsed, if_neg Bool.false_ne_true, parsed]

/-- Identifiers are found only in a text that writes an array. -/
theorem exists_array_of_parseGlobalIds {raw id : String} {ids : List String}
    (listed : parseGlobalIds raw = .ok ids) (member : id ∈ ids) :
    ∃ items, Json.parse raw = .ok (.array items) ∧ ids = items.filterMap Json.text? := by
  rw [parseGlobalIds] at listed
  split at listed
  next blank =>
    cases listed
    contradiction
  next visible =>
    split at listed
    next items parsed => exact ⟨items, parsed, (Except.ok.inj listed).symm⟩
    next => contradiction
    next => contradiction

theorem exists_of_mem_globalIds {raw? : Option String} {id : String}
    (member : id ∈ globalIds raw?) :
    ∃ raw ids, raw? = some raw ∧ parseGlobalIds raw = .ok ids ∧ id ∈ ids := by
  rw [globalIds] at member
  split at member
  next ids listed =>
    obtain ⟨raw, isSet, parsed⟩ := Option.map_eq_some_iff.mp listed
    exact ⟨raw, ids, isSet, parsed, member⟩
  next => contradiction
  next => contradiction

variable {environment : Environment}

/-- A variable with a JSON array is not empty, so it is read. -/
theorem read_of_parse {name raw : String} {value : Json} (isSet : environment name = some raw)
    (parsed : Json.parse raw = .ok value) : read environment name = some raw := by
  have notEmpty : raw.isEmpty = false := by
    rw [Bool.eq_false_iff, ne_eq, String.isEmpty_iff]
    rintro rfl
    exact absurd (Json.isBlank_of_parse parsed) (by decide)
  rw [read, isSet]
  simp [notEmpty]

/-- The strings of the array are listed; what else stands in it is passed over. -/
theorem globalWorkflowIds_of_array {raw : String} {items : List Json}
    (isSet : environment globalWorkflowIdsName = some raw)
    (parsed : Json.parse raw = .ok (.array items)) :
    (ofEnvironment environment).globalWorkflowIds = items.filterMap Json.text? := by
  rw [ofEnvironment, read_of_parse isSet parsed, globalIds, Option.map_some,
    parseGlobalIds_of_array parsed]

/-- The configuration lists the identifiers that the environment shares. -/
theorem mem_globalWorkflowIds_iff {id : String} :
    id ∈ (ofEnvironment environment).globalWorkflowIds ↔ environment.Shares id := by
  constructor
  · intro member
    obtain ⟨raw, ids, isRead, listed, member⟩ := exists_of_mem_globalIds member
    obtain ⟨items, parsed, rfl⟩ := exists_array_of_parseGlobalIds listed member
    exact ⟨raw, items, (Option.filter_eq_some_iff.mp isRead).1, parsed,
      Json.mem_filterMap_text?_iff.mp member⟩
  · rintro ⟨raw, items, isSet, parsed, member⟩
    rw [globalWorkflowIds_of_array isSet parsed]
    exact Json.mem_filterMap_text?_iff.mpr member

end EditorConfig

/-! ## Reports on the flag -/

namespace Report

/-- What a report says about a workflow, shared or not. -/
def flag (format : ReportFormat) (isGlobal : Bool) : String :=
  match format with
  | .text => "save: " ++ if isGlobal then "disabled (global workflow)" else "enabled"
  | .json => "\"isGlobalWorkflow\": " ++ if isGlobal then "true" else "false"

theorem flag_injective (format : ReportFormat) : Function.Injective (flag format) := by
  have differ : flag format true ≠ flag format false := by cases format <;> decide
  intro left right same
  cases left <;> cases right
  case false.false | true.true => rfl
  case false.true => exact absurd same.symm differ
  case true.false => exact absurd same differ

/-- A line stands between the lines over it and those under it. -/
theorem ofLines_around (above below : List String) :
    ∃ before after, ∀ line, ofLines (above ++ line :: below) = before ++ line ++ after := by
  induction above with
  | nil =>
      cases below with
      | nil => exact ⟨"", "", fun line => by simp [ofLines]⟩
      | cons next rest =>
          refine ⟨"", "\n" ++ ofLines (next :: rest), fun line => ?_⟩
          rw [List.nil_append, ofLines, String.intercalate_cons_cons, String.empty_append,
            String.append_assoc, ofLines]
  | cons first above ih =>
      obtain ⟨before, after, around⟩ := ih
      refine ⟨first ++ "\n" ++ before, after, fun line => ?_⟩
      have apart : ofLines (first :: (above ++ line :: below)) =
          first ++ "\n" ++ ofLines (above ++ line :: below) :=
        String.intercalate_cons_of_ne_nil (by simp)
      rw [List.cons_append, apart, around]
      simp only [String.append_assoc]

/-- The text report has a line with the flag. -/
theorem editorText_around (state : EditorState) (id : String) :
    ∃ before after, ∀ isGlobal,
      editorText state (some ⟨id, isGlobal⟩) = before ++ flag .text isGlobal ++ after := by
  obtain ⟨before, after, around⟩ := ofLines_around
    ["title: " ++ state.title, settingsLine state.settings,
      "blocks: " ++ toString state.blocks.length]
    (("run: " ++ EditorHeader.runRoute ⟨id, false⟩) ::
      ("parameters: " ++ toString state.parameters.length) ::
      state.parameters.map fun parameter => "  " ++ parameterLine parameter)
  refine ⟨before, after, fun isGlobal => ?_⟩
  have line : "save: " ++ (if EditorHeader.saveEnabled ⟨id, isGlobal⟩ then "enabled"
      else "disabled (global workflow)") = flag .text isGlobal := by
    cases isGlobal <;> rfl
  rw [← around, ← line]
  rfl

/-- The report in JSON has a member with the flag. -/
theorem editorJson_around (state : EditorState) (id : String) :
    ∃ before after, ∀ isGlobal,
      editorJson state (some ⟨id, isGlobal⟩) = before ++ flag .json isGlobal ++ after := by
  let before : List Char :=
    '\x7b' :: Json.newLine 1 ++ Json.quotedChars "editor" ++ [':', ' '] ++
      Json.prettyChars 1 state.toJson ++ ',' :: Json.newLine 1 ++ Json.quotedChars "header" ++
      [':', ' '] ++ '\x7b' :: Json.newLine 2
  let after : List Char :=
    Json.prettyMembers 2 [("workflowPermanentId", .string id)] ++ Json.newLine 1 ++ ['\x7d'] ++
      Json.newLine 0 ++ ['\x7d']
  refine ⟨.ofList before, .ofList after, fun isGlobal => ?_⟩
  have member : (flag .json isGlobal).toList = Json.quotedChars "isGlobalWorkflow" ++ [':', ' '] ++
      Json.compactChars (.bool isGlobal) := by
    cases isGlobal <;> decide
  have header : Json.record [
      ("editor", state.toJson), ("header", EditorHeader.toJson ⟨id, isGlobal⟩)] =
    .object [
      ("editor", state.toJson),
      ("header", .object [
        ("isGlobalWorkflow", .bool isGlobal), ("workflowPermanentId", .string id)])] := by
    simp only [Json.record, EditorHeader.toJson, Keyed.ofList, List.foldl_cons, List.foldl_nil,
      Keyed.insert, String.reduceLT, String.reduceEq, ↓reduceIte]
  apply String.toList_injective
  rw [editorJson, Option.elim, header, Json.pretty, String.toList_ofList, String.toList_append,
    String.toList_append, String.toList_ofList, String.toList_ofList, member]
  simp [before, after, Json.prettyChars, Json.prettyMembers]

/-- A report says the flag between texts that do not depend on it. -/
theorem editor_around (state : EditorState) (id : String) (format : ReportFormat) :
    ∃ before after, ∀ isGlobal,
      editor format state (some ⟨id, isGlobal⟩) = before ++ flag format isGlobal ++ after := by
  cases format with
  | text => exact editorText_around state id
  | json => exact editorJson_around state id

end Report

/-! ## Protection -/

namespace EditorLoadCommand

/-- The identifier in effect: the one that the command gives, or else the workflow's
own. -/
def effectiveId? (command : EditorLoadCommand) (workflow : Workflow) : Option String :=
  match command.permanentId? with
  | some id => some id
  | none => workflow.permanentId?

variable {command : EditorLoadCommand} {workflow : Workflow} {content : FileContent}

theorem header?_eq (command : EditorLoadCommand) (config : EditorConfig) (workflow : Workflow) :
    command.header? config workflow =
      (command.effectiveId? workflow).map fun id => .ofId id config.globalWorkflowIds := by
  rw [header?, effectiveId?]
  cases command.permanentId? <;> rfl

/-- The report does not look at the format before it knows the header. -/
theorem report_of_loaded
    (loaded : WorkflowFile.workflow? command.file content = .ok (some workflow))
    (config : EditorConfig) (format : ReportFormat) :
    { command with format }.report config content =
      .ok (Report.editor format (.ofWorkflow workflow) (command.header? config workflow)) := by
  rw [report_eq, loaded]
  rfl

/-- In the environment the workflow has that header, which is about the identifier and
does not let the workflow be saved exactly when the environment shares the identifier;
the reports say so between texts that are given. -/
structure Protects (command : EditorLoadCommand) (content : FileContent) (workflow : Workflow)
    (id : String) (before after : ReportFormat → String) (environment : Environment)
    (header : EditorHeader) : Prop where
  isHeader : command.header? (.ofEnvironment environment) workflow = some header
  permanentId : header.permanentId = id
  isGlobal_iff : header.isGlobal = true ↔ environment.Shares id
  saveEnabled_iff : header.saveEnabled = true ↔ ¬environment.Shares id
  saveEnabled_of_listsNone : environment.ListsNone → header.saveEnabled = true
  report : ∀ format, { command with format }.report (.ofEnvironment environment) content =
    .ok (before format ++ Report.flag format header.isGlobal ++ after format)

/-- Every environment has a header that protects what it shares. -/
theorem exists_protects
    (loaded : WorkflowFile.workflow? command.file content = .ok (some workflow)) {id : String}
    (effective : command.effectiveId? workflow = some id) :
    ∃ before after, ∀ environment, ∃ header,
      command.Protects content workflow id before after environment header := by
  choose before after around using Report.editor_around (.ofWorkflow workflow) id
  refine ⟨before, after, fun environment => ?_⟩
  let config := EditorConfig.ofEnvironment environment
  have isHeader : command.header? config workflow =
      some (.ofId id config.globalWorkflowIds) := by
    rw [header?_eq, effective, Option.map_some]
  have isGlobal_iff : (EditorHeader.ofId id config.globalWorkflowIds).isGlobal = true ↔
      environment.Shares id := by
    rw [EditorHeader.isGlobal_ofId, EditorConfig.mem_globalWorkflowIds_iff]
  have saveEnabled_iff : (EditorHeader.ofId id config.globalWorkflowIds).saveEnabled = true ↔
      ¬environment.Shares id := by
    rw [← isGlobal_iff, EditorHeader.saveEnabled, Bool.not_eq_true', Bool.not_eq_true]
  refine ⟨.ofId id config.globalWorkflowIds, ?_⟩
  constructor
  case isHeader => exact isHeader
  case permanentId => rfl
  case isGlobal_iff => exact isGlobal_iff
  case saveEnabled_iff => exact saveEnabled_iff
  case saveEnabled_of_listsNone => exact fun lists => saveEnabled_iff.mpr (lists.not_shares id)
  case report =>
    intro format
    rw [report_of_loaded loaded, isHeader, EditorHeader.ofId, around]

/-- Without an identifier there is no header.  With one, every environment has a header
that forbids saving exactly when it shares the identifier.  Both formats say so and
nothing else of the environment: two environments give the same report exactly when they
agree on whether the identifier is shared.  What an array holds besides strings is passed
over. -/
theorem protects_shared
    (loaded : WorkflowFile.workflow? command.file content = .ok (some workflow)) :
    (command.effectiveId? workflow = none → ∀ environment,
      command.header? (.ofEnvironment environment) workflow = none ∧
      ∀ format, { command with format }.report (.ofEnvironment environment) content =
        .ok (Report.editor format (.ofWorkflow workflow) none)) ∧
    (∀ id, command.effectiveId? workflow = some id →
      (∃ before after, ∀ environment, ∃ header,
        command.Protects content workflow id before after environment header) ∧
      ∀ format (left right : Environment),
        { command with format }.report (.ofEnvironment left) content =
            { command with format }.report (.ofEnvironment right) content ↔
          (left.Shares id ↔ right.Shares id)) ∧
    ∀ (environment : Environment) raw items,
      environment EditorConfig.globalWorkflowIdsName = some raw →
      Json.parse raw = .ok (.array items) →
        (EditorConfig.ofEnvironment environment).globalWorkflowIds =
          items.filterMap Json.text? := by
  refine ⟨fun missing environment => ?_, fun id effective => ?_, ?_⟩
  · have noHeader : command.header? (.ofEnvironment environment) workflow = none := by
      rw [header?_eq, missing, Option.map_none]
    refine ⟨noHeader, fun format => ?_⟩
    rw [report_of_loaded loaded, noHeader]
  · have protects := exists_protects loaded effective
    refine ⟨protects, fun format left right => ?_⟩
    obtain ⟨before, after, protects⟩ := protects
    obtain ⟨leftHeader, leftProtects⟩ := protects left
    obtain ⟨rightHeader, rightProtects⟩ := protects right
    rw [leftProtects.report, rightProtects.report, Except.ok.injEq, String.append_left_inj,
      String.append_right_inj, (Report.flag_injective format).eq_iff, Bool.eq_iff_iff,
      leftProtects.isGlobal_iff, rightProtects.isGlobal_iff]
  · intro environment raw items isSet parsed
    exact EditorConfig.globalWorkflowIds_of_array isSet parsed

end EditorLoadCommand

/-! ## A template -/

/-- The environment with nothing but the shared workflows, or without them. -/
def Environment.sharing (raw? : Option String) : Environment :=
  fun name => if name = EditorConfig.globalWorkflowIdsName then raw? else none

namespace Template

/-- A document with an identifier of its own. -/
def document : Json :=
  .object [
    ("title", .string "Invoices"),
    ("workflow_definition", .object [("blocks", .array []), ("parameters", .array [])]),
    ("workflow_permanent_id", .string "wpid_1")]

/-- The workflow of that document. -/
def workflow : Workflow where
  id? := none
  permanentId? := some "wpid_1"
  title := "Invoices"
  description? := none
  persistBrowserSession? := none
  proxyLocation? := none
  webhookCallbackUrl? := none
  definition := { blocks := [], parameters := [] }

theorem workflow?_document :
    WorkflowFile.workflow? "flow" (.ok document.compact) = .ok (some workflow) := by
  have format : WorkflowFile.format "flow" = .auto := by cbv
  have readsBack : document.ReadsBack := by decide +kernel
  have read : Workflow.ofJson document true = .ok workflow := by decide +kernel
  rw [WorkflowFile.workflow?_of_compact format readsBack ⟨_, rfl⟩, read]
  rfl

end Template

open Environment Template in
/-- The template is shared by an array with its identifier, whatever else stands there,
and then it cannot be saved; an array around the array does not share it. -/
theorem protects_shared_template :
    let command : EditorLoadCommand := ⟨"flow", none, .json⟩
    let content : FileContent := .ok document.compact
    let shared := sharing (some "[\"other\", 7, null, \"wpid_1\"]")
    let nested := sharing (some "[[\"wpid_1\"]]")
    WorkflowFile.workflow? command.file content = .ok (some workflow) ∧
    (∃ header, command.header? (.ofEnvironment shared) workflow = some header ∧
      header.saveEnabled = false) ∧
    (∃ header, command.header? (.ofEnvironment nested) workflow = some header ∧
      header.saveEnabled = true) ∧
    command.report (.ofEnvironment shared) content ≠
      command.report (.ofEnvironment nested) content := by
  intro command content shared nested
  have isShared : shared.Shares "wpid_1" := by
    refine ⟨_, [.string "other", .ofNat 7, .null, .string "wpid_1"], rfl, ?_, by decide⟩
    decide +kernel
  have isNotShared : ¬nested.Shares "wpid_1" := by
    rintro ⟨raw, items, ⟨⟩, read, member⟩
    have readNested : Json.parse "[[\"wpid_1\"]]" = .ok (.array [.array [.string "wpid_1"]]) := by
      decide +kernel
    cases readNested.symm.trans read
    simp at member
  have loaded : WorkflowFile.workflow? command.file content = .ok (some workflow) :=
    workflow?_document
  obtain ⟨⟨before, after, protects⟩, same_iff⟩ :=
    (EditorLoadCommand.protects_shared loaded).2.1 "wpid_1" rfl
  refine ⟨loaded, ?_, ?_, ?_⟩
  · obtain ⟨header, protects⟩ := protects shared
    refine ⟨header, protects.isHeader, ?_⟩
    rw [EditorHeader.saveEnabled, protects.isGlobal_iff.mpr isShared, Bool.not_true]
  · obtain ⟨header, protects⟩ := protects nested
    exact ⟨header, protects.isHeader, protects.saveEnabled_iff.mpr isNotShared⟩
  · intro same
    exact isNotShared (((same_iff .json shared nested).mp same).mp isShared)

end WorkflowEditor
