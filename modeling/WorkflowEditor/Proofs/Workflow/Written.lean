import WorkflowEditor.Proofs.Editor.View
import WorkflowEditor.Proofs.Parameter.Written

/-!
# Workflows survive being written

The JSON of a workflow that was read from a document is itself a document, and the
same workflow is read from it, with the schema checked if it was checked before
(`Workflow.ofJson_toJson`).  The two documents need not be equal: absent members are
written as null, unknown ones are left out, and a type or a source has one spelling.

Workflows that are made by hand may fail to be read back.  Those that are read back
are the settled ones, whose parameters hold no null and no object out of order.
-/

namespace WorkflowEditor

open Json (Members IsObject)

namespace WorkflowDefinition

theorem yields_settled {origin : Origin} :
    decoder.Yields origin fun definition =>
      ∀ parameter ∈ definition.parameters, parameter.Settled := by
  refine Decoder.Fields.Yields.record (.skip <| .field Parameter.yields_settled.list ?_) ?_
  · intro value fallback
    contradiction
  · intro values settled
    exact settled

/-- The members that a definition is written with. -/
def members (definition : WorkflowDefinition) : Members :=
  [("blocks", .array definition.blocks),
    ("parameters", .array (definition.parameters.map Parameter.toJson))]

theorem distinct_members (definition : WorkflowDefinition) :
    Keyed.Distinct definition.members := by
  simp [members, Keyed.Distinct]

/-- A definition with settled parameters is read back. -/
theorem decoder_toJson {definition : WorkflowDefinition}
    (settled : ∀ parameter ∈ definition.parameters, parameter.Settled) :
    decoder.ofTree .value definition.toJson = .ok definition := by
  apply Decoder.record_object_eq_ok_iff.mpr
  refine ⟨(definition.blocks, definition.parameters, ()), ?_, rfl⟩
  simp only [Decoder.Fields.accepts_field, Decoder.Fields.accepts_done, and_true, ne_eq,
    String.reduceEq, not_false_eq_true, Keyed.values_erase]
  constructor
  · apply Decoder.Reads.written (distinct_members definition) rfl
    apply Decoder.list_eq_ok_iff.mpr
    refine ⟨definition.blocks, rfl, ?_⟩
    rw [List.forall₂_same]
    intro block member
    rfl
  · apply Decoder.Reads.written (distinct_members definition) rfl
    apply Decoder.list_array_map
    intro parameter member
    exact Parameter.decoder_toJson (settled parameter member)

end WorkflowDefinition

namespace Workflow

/-! ## Settled workflows -/

/-- The values that the parameters hold are settled. -/
def Settled (workflow : Workflow) : Prop :=
  ∀ parameter ∈ workflow.parameters, parameter.Settled

/-- Every workflow that is decoded is settled. -/
theorem yields_settled {origin : Origin} : decoder.Yields origin Settled := by
  refine Decoder.Fields.Yields.record
    (.skip <| .skip <| .skip <| .skip <| .skip <| .skip <| .skip <|
      .field WorkflowDefinition.yields_settled ?_) ?_
  · intro value fallback
    contradiction
  · intro values settled
    exact settled

/-- The members that a workflow is written with. -/
def members (workflow : Workflow) : Members := [
  ("workflow_id", .ofText? workflow.id?),
  ("workflow_permanent_id", .ofText? workflow.permanentId?),
  ("title", .string workflow.title),
  ("description", .ofText? workflow.description?),
  ("persist_browser_session", workflow.persistBrowserSession?.elim .null .bool),
  ("proxy_location", .ofText? (workflow.proxyLocation?.map ProxyLocation.name)),
  ("webhook_callback_url", .ofText? workflow.webhookCallbackUrl?),
  ("workflow_definition", workflow.definition.toJson)]

theorem distinct_members (workflow : Workflow) : Keyed.Distinct workflow.members := by
  simp [members, Keyed.Distinct]

theorem option_proxyLocation_ofText? (location? : Option ProxyLocation) :
    (Decoder.option ProxyLocation.decoder).ofTree .value
      (.ofText? (location?.map ProxyLocation.name)) = .ok location? := by
  cases location? with
  | none => rfl
  | some location =>
      apply Decoder.option_eq_ok_iff.mpr
      refine Or.inr ⟨nofun, location, ?_, rfl⟩
      exact Decoder.constants_string (ProxyLocation.find?_name location)

/-- A workflow is written as an object in which a field reads the member that is written
for it. -/
theorem exists_toJson_reads (workflow : Workflow) :
    ∃ entries, workflow.toJson = .object entries ∧
      ∀ {α : Type} {decoder : Decoder α} {absent : Decoder.Absent α} {name : String}
        {content : Json} {value : α},
        Keyed.find? name workflow.members = some content →
        decoder.ofTree .value content = .ok value →
        Decoder.Reads decoder absent .value (Keyed.values name entries) value :=
  ⟨_, rfl, Decoder.Reads.written (distinct_members workflow)⟩

/-- Exactly the settled workflows are read back by the decoder. -/
theorem decoder_toJson_iff {workflow : Workflow} :
    decoder.ofTree .value workflow.toJson = .ok workflow ↔ workflow.Settled := by
  constructor
  · intro decoded
    exact yields_settled workflow.toJson workflow decoded
  · intro settled
    -- the entries are named, so that none of the steps below computes them
    obtain ⟨entries, written, reads⟩ := exists_toJson_reads workflow
    rw [written]
    apply Decoder.record_object_eq_ok_iff.mpr
    refine ⟨(workflow.id?, workflow.permanentId?, workflow.title, workflow.description?,
      workflow.persistBrowserSession?, workflow.proxyLocation?, workflow.webhookCallbackUrl?,
      workflow.definition, ()), ?_, rfl⟩
    simp only [Decoder.Fields.accepts_field, Decoder.Fields.accepts_done, and_true, ne_eq,
      String.reduceEq, not_false_eq_true, Keyed.values_erase]
    refine ⟨?_, ?_, ?_, ?_, ?_, ?_, ?_, ?_⟩
    · exact reads rfl (Decoder.option_text_ofText? _)
    · exact reads rfl (Decoder.option_text_ofText? _)
    · exact reads rfl rfl
    · exact reads rfl (Decoder.option_text_ofText? _)
    · exact reads rfl (Decoder.option_flag_elim _)
    · exact reads rfl (option_proxyLocation_ofText? _)
    · exact reads rfl (Decoder.option_text_ofText? _)
    · exact reads rfl (WorkflowDefinition.decoder_toJson settled)

/-! ## Written workflows pass both checks -/

theorem member?_toJson (workflow : Workflow) (name : String) :
    workflow.toJson.member? name = Keyed.find? name workflow.members :=
  (distinct_members workflow).find?_ofList name

theorem member?_toJson_definition (definition : WorkflowDefinition) (name : String) :
    definition.toJson.member? name = Keyed.find? name definition.members :=
  (WorkflowDefinition.distinct_members definition).find?_ofList name

/-- The kind of a written parameter is known. -/
theorem unknownKind?_toJson (parameter : Parameter) (index : Nat) :
    unknownKind? index parameter.toJson = none := by
  have kind : parameter.toJson.member? "parameter_type" = some (.string parameter.tag) :=
    (Parameter.distinct_members parameter).find?_ofList "parameter_type"
  rw [unknownKind?, kind, Option.bind_some, Json.text?_string, Option.bind_some,
    if_pos parameter.tag_mem_tags]

theorem kindReport_toJson (workflow : Workflow) : kindReport workflow.toJson = [] := by
  have definition : workflow.toJson.member? "workflow_definition" =
      some workflow.definition.toJson := member?_toJson workflow _
  have parameters : workflow.definition.toJson.member? "parameters" =
      some (.array (workflow.parameters.map Parameter.toJson)) :=
    member?_toJson_definition workflow.definition _
  have raw : rawParameters workflow.toJson = workflow.parameters.map Parameter.toJson := by
    rw [rawParameters, definition, Option.bind_some, parameters]
    rfl
  rw [← kindIssues_eq_kindReport, kindIssues, raw]
  apply List.filterMap_eq_nil_iff.mpr
  intro entry member
  have written := List.fst_mem_of_mem_zipIdx member
  simp only [List.mem_map] at written
  rcases written with ⟨parameter, -, same⟩
  change unknownKind? entry.2 entry.1 = none
  rw [← same]
  exact unknownKind?_toJson parameter entry.2

/-- A workflow whose blocks are objects is written as a regular document. -/
theorem regular_toJson {workflow : Workflow} (objects : ∀ block ∈ workflow.blocks, IsObject block) :
    Regular workflow.toJson where
  object := ⟨_, rfl⟩
  definition := by
    refine ⟨workflow.definition.toJson, member?_toJson workflow _, ⟨_, rfl⟩, ?_, ?_⟩
    · intro blocks found items same block member
      rw [member?_toJson_definition] at found
      cases found
      cases same
      exact objects block member
    · intro parameters found items same parameter member
      rw [member?_toJson_definition] at found
      cases found
      cases same
      simp only [List.mem_map] at member
      rcases member with ⟨written, -, rfl⟩
      exact ⟨_, rfl⟩
  proxyLocation := by
    intro location found object
    rw [member?_toJson] at found
    cases found
    rcases object with ⟨members, same⟩
    cases located : workflow.proxyLocation? <;> simp [located, Json.ofText?] at same

/-- The blocks of a workflow that was read with the schema checked are objects. -/
theorem isObject_of_mem_blocks {document : Json} {workflow : Workflow}
    (read : ofJson document true = .ok workflow) :
    ∀ block ∈ workflow.blocks, IsObject block := by
  have ⟨conforms, decoded⟩ := conforms_of_ofJson read
  rcases shape_of_conforms conforms ⟨workflow, decoded⟩ with ⟨members, rfl, shape⟩
  rcases (EditorView.readsWorkflow_of_decoder decoded).definition.required with
    ⟨definition, found, decodedDefinition⟩
  rcases shape.definition.of_find? found with ⟨definitionMembers, rfl, blocks, -⟩
  have written := EditorView.member?_blocks_of_decoder decodedDefinition
  rw [Json.member?_object] at written
  rcases blocks.of_find? written with ⟨items, same, objects⟩
  cases same
  exact objects

theorem schemaReport_toJson {document : Json} {checkSchema : Bool} {workflow : Workflow}
    (read : ofJson document checkSchema = .ok workflow) (settled : workflow.Settled) :
    schemaReport workflow.toJson checkSchema = [] := by
  cases checkSchema with
  | false => rfl
  | true =>
      have regular := regular_toJson (isObject_of_mem_blocks read)
      have conforms := conforms_of_admits regular ⟨workflow, decoder_toJson_iff.mpr settled⟩
      rw [schemaReport, if_pos rfl, Schema.checkById_workflowId]
      exact Schema.check_eq_nil_iff.mpr conforms

/-- A workflow that was read from a document is read again from what it is written
as, under the same checks; so writing and reading once more changes nothing. -/
theorem ofJson_toJson {document : Json} {checkSchema : Bool} {workflow : Workflow}
    (read : ofJson document checkSchema = .ok workflow) :
    ofJson workflow.toJson checkSchema = .ok workflow ∧
      (ofJson workflow.toJson checkSchema).map toJson = .ok workflow.toJson := by
  have settled : workflow.Settled := by
    have decoded := (ofJson_eq_ok_iff.mp read).2.2
    exact yields_settled document workflow decoded
  have again : ofJson workflow.toJson checkSchema = .ok workflow := by
    apply ofJson_eq_ok_iff.mpr
    exact ⟨kindReport_toJson workflow, schemaReport_toJson read settled,
      decoder_toJson_iff.mpr settled⟩
  refine ⟨again, ?_⟩
  rw [again]
  rfl

/-- A document with a member of an unknown name, an input whose type is an object and
whose default is null, and a context whose source is an array. -/
def spelledDocument : Json :=
  .object [
    ("owner", .string "nobody"),
    ("title", .string "Invoices"),
    ("workflow_definition", .object [
      ("blocks", .array [.object [("label", .null)]]),
      ("parameters", .array [
        .object [
          ("default_value", .null), ("key", .string "site"),
          ("parameter_type", .string "workflow"),
          ("workflow_parameter_type", .object [("string", .null)])],
        .object [
          ("key", .string "page"), ("parameter_type", .string "context"),
          ("source", .array [.string "site"]), ("value", .object [("a", .null)])]])])]

/-- The workflow of that document. -/
def spelledWorkflow : Workflow where
  id? := none
  permanentId? := none
  title := "Invoices"
  description? := none
  persistBrowserSession? := none
  proxyLocation? := none
  webhookCallbackUrl? := none
  definition := {
    blocks := [.object [("label", .null)]]
    parameters := [
      .input { key := "site", description? := none, inputType := .string, defaultValue? := none },
      .context {
        key := "page", description? := none, source := { key := "site" }
        value? := some (.object [("a", .null)]) }] }

/-- The document is not what its workflow is written as, but the same workflow is read
from both. -/
theorem ofJson_toJson_spelled :
    spelledWorkflow.toJson ≠ spelledDocument ∧
      ofJson spelledDocument true = .ok spelledWorkflow ∧
      ofJson spelledWorkflow.toJson true = .ok spelledWorkflow := by
  have read : ofJson spelledDocument true = .ok spelledWorkflow := by decide +kernel
  exact ⟨by decide +kernel, read, (ofJson_toJson read).1⟩

end Workflow

end WorkflowEditor
