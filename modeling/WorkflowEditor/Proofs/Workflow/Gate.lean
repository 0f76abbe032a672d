import WorkflowEditor.Proofs.Parameter.Shape
import WorkflowEditor.Proofs.Schema.Conformance
import WorkflowEditor.Proofs.Workflow.Phases

/-!
# The schema as a gate

The schema and the decoder describe the same documents in two ways.  A record or
a parameter may be decoded from an array, a block from any value, and a proxy
location from an object, none of which the schema allows.  `Workflow.Regular`
rules these out; a regular document that decodes follows the schema, so that
checking the schema changes nothing (`Workflow.ofJson_checked_iff`).
-/

namespace WorkflowEditor

open Json (Members IsText IsFlag IsAny IsObject OrNull IsListOf)

/-! ## What the decoders ask for -/

theorem ProxyLocation.admits_iff {tree : Json} :
    decoder.Admits .value tree ↔
      ∃ location : ProxyLocation, tree = .string location.name ∨
        tree = .object [(location.name, .null)] := by
  rw [decoder, Decoder.admits_constants_iff]
  constructor
  · intro named
    rcases named with ⟨name, listed, spelled⟩
    obtain ⟨location, rfl⟩ : ∃ location : ProxyLocation, location.name = name := by
      simp only [List.map_map, List.mem_map] at listed
      rcases listed with ⟨location, -, same⟩
      exact ⟨location, same⟩
    rcases spelled with text | ⟨content, object, isUnit⟩
    · exact ⟨location, Or.inl text⟩
    · rcases Decoder.admits_unit_iff.mp isUnit with rfl | ⟨collected, -⟩
      · exact ⟨location, Or.inr object⟩
      · contradiction
  · intro named
    rcases named with ⟨location, spelled⟩
    have listed : location.name ∈ (all.map fun other => (other.name, other)).map Prod.fst := by
      rw [List.map_map]
      exact List.mem_map_of_mem (mem_all location)
    rcases spelled with text | object
    · exact ⟨location.name, listed, Or.inl text⟩
    · exact ⟨location.name, listed,
        Or.inr ⟨.null, object, Decoder.admits_unit_iff.mpr (Or.inl rfl)⟩⟩

variable {members : Members}

theorem WorkflowDefinition.admits_object_iff :
    decoder.Admits .value (.object members) ↔
      members.Requires "blocks" (IsListOf IsAny) ∧
        members.Requires "parameters" (IsListOf (Parameter.decoder.Admits .value)) := by
  simp [decoder]

namespace Workflow

theorem admits_object_iff :
    decoder.Admits .value (.object members) ↔
      members.Allows "workflow_id" (OrNull IsText) ∧
      members.Allows "workflow_permanent_id" (OrNull IsText) ∧
      members.Requires "title" IsText ∧
      members.Allows "description" (OrNull IsText) ∧
      members.Allows "persist_browser_session" (OrNull IsFlag) ∧
      members.Allows "proxy_location" (OrNull (ProxyLocation.decoder.Admits .value)) ∧
      members.Allows "webhook_callback_url" (OrNull IsText) ∧
      members.Requires "workflow_definition" (WorkflowDefinition.decoder.Admits .value) := by
  simp [decoder]

/-- A workflow that is read with the schema checked is decoded from a document that
follows the schema. -/
theorem conforms_of_ofJson {document : Json} {workflow : Workflow}
    (read : ofJson document true = .ok workflow) :
    Schema.workflow.Conforms document ∧ decoder.ofTree .value document = .ok workflow := by
  obtain ⟨-, clean, decoded⟩ := ofJson_eq_ok_iff.mp read
  rw [schemaReport, if_pos rfl, Schema.checkById_workflowId] at clean
  exact ⟨Schema.check_eq_nil_iff.mp clean, decoded⟩

/-! ## Regular documents -/

/-- The items of an array are objects; other values have none. -/
def ItemsAreObjects (value : Json) : Prop :=
  ∀ items, value = .array items → ∀ item ∈ items, IsObject item

/-- The document and its definition are objects, the blocks and parameters are
objects if they stand in arrays, and the proxy location is not an object. -/
structure Regular (document : Json) : Prop where
  object : IsObject document
  definition : ∃ definition, document.member? "workflow_definition" = some definition ∧
    IsObject definition ∧
    (∀ blocks, definition.member? "blocks" = some blocks → ItemsAreObjects blocks) ∧
    ∀ parameters, definition.member? "parameters" = some parameters → ItemsAreObjects parameters
  proxyLocation : ∀ location, document.member? "proxy_location" = some location →
    ¬IsObject location

/-! ## Regular documents that decode follow the schema -/

theorem conforms_parameter {origin : Origin} {parameter : Json}
    (admitted : Parameter.decoder.Admits origin parameter) (object : IsObject parameter) :
    Schema.parameter.Conforms parameter := by
  obtain ⟨members, rfl⟩ := object
  have shape := Parameter.admits_object_iff.mp admitted
  have kind : Members.Requires members "parameter_type" IsText :=
    shape.kind.imp fun _ _ named => named.imp fun _ => And.left
  apply Schema.conforms_record_iff.mpr
  refine ⟨members, rfl, ?_, ?_⟩
  · simp [shape.key.isSome_find?, kind.isSome_find?]
  · simp only [List.forall_mem_cons, Schema.conforms_text, Schema.conforms_nullable_text]
    exact ⟨fun _ => shape.key.of_find?, fun _ => kind.of_find?,
      fun _ => shape.description.of_find?, by simp⟩

theorem conforms_definition {definition : Json}
    (admitted : WorkflowDefinition.decoder.Admits .value definition)
    (object : IsObject definition)
    (blockObjects : ∀ blocks, definition.member? "blocks" = some blocks →
      ItemsAreObjects blocks)
    (parameterObjects : ∀ parameters, definition.member? "parameters" = some parameters →
      ItemsAreObjects parameters) :
    Schema.workflowDefinition.Conforms definition := by
  obtain ⟨members, rfl⟩ := object
  obtain ⟨blocks, parameters⟩ := WorkflowDefinition.admits_object_iff.mp admitted
  apply Schema.conforms_record_iff.mpr
  refine ⟨members, rfl, ?_, ?_⟩
  · simp [blocks.isSome_find?, parameters.isSome_find?]
  · simp only [List.forall_mem_cons, Schema.conforms_listOf, Schema.conforms_object,
      Schema.conforms_definition]
    refine ⟨?_, ?_, by simp⟩
    · intro value found
      obtain ⟨items, rfl, -⟩ := blocks.of_find? found
      exact ⟨items, rfl, blockObjects _ found items rfl⟩
    · intro value found
      obtain ⟨items, rfl, decoded⟩ := parameters.of_find? found
      refine ⟨items, rfl, fun item member => ?_⟩
      exact conforms_parameter (decoded item member)
        (parameterObjects _ found items rfl item member)

/-- The schema allows every regular document that decodes. -/
theorem conforms_of_admits {document : Json} (regular : Regular document)
    (admitted : decoder.Admits .value document) : Schema.workflow.Conforms document := by
  obtain ⟨members, rfl⟩ := regular.object
  obtain ⟨id, permanentId, title, description, persistBrowserSession, proxyLocation,
    webhookCallbackUrl, definition⟩ := admits_object_iff.mp admitted
  apply Schema.conforms_record_iff.mpr
  refine ⟨members, rfl, ?_, ?_⟩
  · simp [title.isSome_find?, definition.isSome_find?]
  · simp only [List.forall_mem_cons, Schema.conforms_text, Schema.conforms_nullable_text,
      Schema.conforms_nullable_flag]
    refine ⟨fun _ => id.of_find?, fun _ => permanentId.of_find?, fun _ => title.of_find?,
      fun _ => description.of_find?, fun _ => persistBrowserSession.of_find?, ?_,
      fun _ => webhookCallbackUrl.of_find?, ?_, by simp⟩
    · intro value found
      rcases proxyLocation.of_find? found with absent | named
      · exact Or.inl absent
      · rcases ProxyLocation.admits_iff.mp named with ⟨location, rfl | rfl⟩
        · exact Or.inr ⟨location.name, rfl⟩
        · exact absurd ⟨_, rfl⟩ (regular.proxyLocation _ found)
    · intro value found
      obtain ⟨other, foundOther, object, blockObjects, parameterObjects⟩ := regular.definition
      rw [Json.member?_object, found] at foundOther
      cases foundOther
      exact conforms_definition (definition.of_find? found) object blockObjects parameterObjects

/-- On regular documents the schema and the decoder agree: checking the schema
rejects nothing that decodes, and does not change what it decodes to. -/
theorem ofJson_checked_iff {document : Json} (regular : Regular document)
    (workflow : Workflow) :
    ofJson document true = .ok workflow ↔ ofJson document false = .ok workflow := by
  rw [ofJson_eq_ok_iff, ofJson_eq_ok_iff]
  refine and_congr_right fun _ => and_congr_left fun decoded => ?_
  have conforms := conforms_of_admits regular ⟨workflow, decoded⟩
  have clean : schemaReport document true = [] := by
    rw [schemaReport, if_pos rfl, Schema.checkById_workflowId]
    exact Schema.check_eq_nil_iff.mpr conforms
  exact iff_of_true clean rfl

/-- A small document with a block, a parameter and a proxy location. -/
def smallDocument : Json :=
  .object [
    ("proxy_location", .string "US-CA"),
    ("title", .string "Invoices"),
    ("workflow_definition", .object [
      ("blocks", .array [.object []]),
      ("parameters", .array [.object [
        ("key", .string "site"), ("parameter_type", .string "output")]])])]

theorem smallDocument_regular : Regular smallDocument := by
  constructor
  · exact ⟨_, rfl⟩
  · simp [smallDocument, IsObject, ItemsAreObjects]
  · simp [smallDocument, IsObject]

/-- The small document is regular, and gives the same workflow with the schema
as without. -/
theorem ofJson_checked_small :
    Regular smallDocument ∧
      ofJson smallDocument true = .ok {
        id? := none
        permanentId? := none
        title := "Invoices"
        description? := none
        persistBrowserSession? := none
        proxyLocation? := some .usCa
        webhookCallbackUrl? := none
        definition := {
          blocks := [.object []]
          parameters := [.output { key := "site", description? := none }] } } := by
  refine ⟨smallDocument_regular, (ofJson_checked_iff smallDocument_regular _).mpr ?_⟩
  decide +kernel

end Workflow

end WorkflowEditor
