import WorkflowEditor.Proofs.Workflow.Gate

/-!
# The shape of workflow documents

`Workflow.Shape` says what a document looks like, without the schema, the check
of kinds or the decoder.  With the schema checked, a document gives a workflow
exactly when it has this shape in the accepted spelling
(`Workflow.exists_ofJson_iff_shape`); the plain spelling is too narrow.
-/

namespace WorkflowEditor

open Json (Members IsText IsFlag IsAny IsObject OrNull IsListOf)

/-- The value is the name of a proxy location. -/
def ProxyLocation.IsName (value : Json) : Prop :=
  ∃ location : ProxyLocation, value = .string location.name

/-- A definition is an object with blocks, which are objects, and parameters. -/
def WorkflowDefinition.Shape (spelling : Spelling) (definition : Json) : Prop :=
  ∃ members : Members, definition = .object members ∧
    members.Requires "blocks" (IsListOf IsObject) ∧
    members.Requires "parameters" (IsListOf (Parameter.Shape spelling))

namespace Workflow

/-- The members of a workflow. -/
structure MembersShape (spelling : Spelling) (members : Members) : Prop where
  id : members.Allows "workflow_id" (OrNull IsText)
  permanentId : members.Allows "workflow_permanent_id" (OrNull IsText)
  title : members.Requires "title" IsText
  description : members.Allows "description" (OrNull IsText)
  persistBrowserSession : members.Allows "persist_browser_session" (OrNull IsFlag)
  proxyLocation : members.Allows "proxy_location" (OrNull ProxyLocation.IsName)
  webhookCallbackUrl : members.Allows "webhook_callback_url" (OrNull IsText)
  definition : members.Requires "workflow_definition" (WorkflowDefinition.Shape spelling)

/-- A workflow is an object with such members. -/
def Shape (spelling : Spelling) (document : Json) : Prop :=
  ∃ members, document = .object members ∧ MembersShape spelling members

end Workflow

/-! ## Definitions -/

/-- A definition that follows the schema and is decoded has the shape. -/
theorem WorkflowDefinition.shape_of_conforms {definition : Json}
    (conforms : Schema.workflowDefinition.Conforms definition)
    (admitted : decoder.Admits .value definition) : Shape .accepted definition := by
  obtain ⟨members, rfl, -, properties⟩ := Schema.conforms_record_iff.mp conforms
  simp only [List.forall_mem_cons, Schema.conforms_listOf, Schema.conforms_object,
    Schema.conforms_definition] at properties
  obtain ⟨blockObjects, parametersConform, -⟩ := properties
  obtain ⟨blocks, parameters⟩ := admits_object_iff.mp admitted
  refine ⟨members, rfl, ?_, ?_⟩
  · exact blocks.imp fun value found _ => blockObjects value found
  · apply parameters.imp
    intro value found admittedItems
    obtain ⟨items, rfl, decoded⟩ := admittedItems
    obtain ⟨_, same, conform⟩ := parametersConform _ found
    cases same
    refine ⟨items, rfl, fun item member => ?_⟩
    obtain ⟨itemMembers, rfl, -⟩ := Schema.conforms_record_iff.mp (conform item member)
    exact ⟨itemMembers, rfl, Parameter.admits_object_iff.mp (decoded _ member)⟩

theorem WorkflowDefinition.admits_of_shape {definition : Json}
    (shape : Shape .accepted definition) :
    decoder.Admits .value definition := by
  obtain ⟨members, rfl, blocks, parameters⟩ := shape
  apply admits_object_iff.mpr
  constructor
  · exact blocks.imp fun _ _ list => list.imp fun _ _ => trivial
  · apply parameters.imp
    intro value found list
    apply list.imp
    intro parameter parameterShape
    obtain ⟨parameterMembers, rfl, shape⟩ := parameterShape
    exact Parameter.admits_object_iff.mpr shape

/-! ## What is read has the shape -/

namespace Workflow

/-- A document that follows the schema and is decoded has the shape. -/
theorem shape_of_conforms {document : Json} (conforms : Schema.workflow.Conforms document)
    (admitted : decoder.Admits .value document) : Shape .accepted document := by
  obtain ⟨members, rfl, -, properties⟩ := Schema.conforms_record_iff.mp conforms
  simp only [List.forall_mem_cons, Schema.conforms_nullable_text] at properties
  obtain ⟨-, -, -, -, -, locationConforms, -, definitionConforms, -⟩ := properties
  obtain ⟨id, permanentId, title, description, persistBrowserSession, proxyLocation,
    webhookCallbackUrl, definition⟩ := admits_object_iff.mp admitted
  refine ⟨members, rfl, id, permanentId, title, description, persistBrowserSession, ?_,
    webhookCallbackUrl, ?_⟩
  · apply proxyLocation.imp
    intro value found spelled
    apply spelled.imp_right
    intro named
    obtain ⟨location, rfl | rfl⟩ := ProxyLocation.admits_iff.mp named
    · exact ⟨location, rfl⟩
    · rcases locationConforms _ found with absent | ⟨text, same⟩
      · contradiction
      · contradiction
  · apply definition.imp
    intro value found admittedDefinition
    exact WorkflowDefinition.shape_of_conforms (definitionConforms value found) admittedDefinition

/-! ## What has the shape is read -/

theorem itemsAreObjects_of_isListOf {shape : Json → Prop} {value : Json}
    (list : IsListOf shape value) (objects : ∀ item, shape item → IsObject item) :
    ItemsAreObjects value := by
  obtain ⟨items, rfl, shaped⟩ := list
  intro others same item member
  cases same
  exact objects item (shaped item member)

theorem regular_of_shape {spelling : Spelling} {document : Json}
    (shape : Shape spelling document) : Regular document := by
  obtain ⟨members, rfl, shape⟩ := shape
  constructor
  · exact ⟨members, rfl⟩
  · obtain ⟨_, found, definitionMembers, rfl, blocks, parameters⟩ := shape.definition.find?
    refine ⟨_, found, ⟨definitionMembers, rfl⟩, ?_, ?_⟩
    · intro value foundBlocks
      exact itemsAreObjects_of_isListOf (blocks.of_find? foundBlocks) fun _ => id
    · intro value foundParameters
      apply itemsAreObjects_of_isListOf (parameters.of_find? foundParameters)
      intro parameter parameterShape
      obtain ⟨parameterMembers, same, -⟩ := parameterShape
      exact ⟨parameterMembers, same⟩
  · intro value found object
    obtain ⟨locationMembers, rfl⟩ := object
    rcases shape.proxyLocation.of_find? found with absent | ⟨location, named⟩
    · contradiction
    · contradiction

theorem admits_of_shape {document : Json} (shape : Shape .accepted document) :
    decoder.Admits .value document := by
  obtain ⟨members, rfl, shape⟩ := shape
  apply admits_object_iff.mpr
  refine ⟨shape.id, shape.permanentId, shape.title, shape.description,
    shape.persistBrowserSession, ?_, shape.webhookCallbackUrl, ?_⟩
  · apply shape.proxyLocation.imp
    intro value found orNull
    apply orNull.imp
    intro named
    obtain ⟨location, same⟩ := named
    exact ProxyLocation.admits_iff.mpr ⟨location, Or.inl same⟩
  · exact shape.definition.imp fun _ _ => WorkflowDefinition.admits_of_shape

/-- The kind of a parameter that has the shape is known. -/
theorem unknownKind?_eq_none_of_shape {spelling : Spelling} {parameter : Json}
    (shape : Parameter.Shape spelling parameter) (index : Nat) :
    unknownKind? index parameter = none := by
  obtain ⟨members, rfl, shape⟩ := shape
  obtain ⟨_, found, tag, rfl, own⟩ := shape.kind.find?
  rw [unknownKind?, Json.member?_object, found, Option.bind_some, Json.text?_string,
    Option.bind_some, if_pos own.mem_tags]

theorem kindReport_eq_nil_of_shape {spelling : Spelling} {document : Json}
    (shape : Shape spelling document) : kindReport document = [] := by
  obtain ⟨members, rfl, shape⟩ := shape
  obtain ⟨_, foundDefinition, definitionMembers, rfl, -, parameters⟩ := shape.definition.find?
  obtain ⟨_, foundParameters, items, rfl, shapes⟩ := parameters.find?
  have raw : rawParameters (.object members) = items := by
    rw [rawParameters, Json.member?_object, foundDefinition, Option.bind_some,
      Json.member?_object, foundParameters]
    rfl
  rw [← kindIssues_eq_kindReport, kindIssues, raw]
  apply List.filterMap_eq_nil_iff.mpr
  intro entry member
  exact unknownKind?_eq_none_of_shape (shapes _ (List.fst_mem_of_mem_zipIdx member)) _

/-- With the schema checked, a document gives a workflow exactly when it has the
shape of one in the accepted spelling. -/
theorem exists_ofJson_iff_shape (document : Json) :
    (∃ workflow, ofJson document true = .ok workflow) ↔ Shape .accepted document := by
  have clean : schemaReport document true = [] ↔ Schema.workflow.Conforms document := by
    rw [schemaReport, if_pos rfl, Schema.checkById_workflowId]
    exact Schema.check_eq_nil_iff
  constructor
  · intro read
    obtain ⟨workflow, read⟩ := read
    obtain ⟨-, schemaClean, decoded⟩ := ofJson_eq_ok_iff.mp read
    exact shape_of_conforms (clean.mp schemaClean) ⟨workflow, decoded⟩
  · intro shape
    obtain ⟨workflow, decoded⟩ := admits_of_shape shape
    have conforms := conforms_of_admits (regular_of_shape shape) ⟨workflow, decoded⟩
    exact ⟨workflow, ofJson_eq_ok_iff.mpr
      ⟨kindReport_eq_nil_of_shape shape, clean.mpr conforms, decoded⟩⟩

/-! ## The plain spelling is too narrow -/

/-- A document with one parameter. -/
def singleParameter (own : Members) : Json :=
  .object [
    ("title", .string "Invoices"),
    ("workflow_definition", .object [
      ("blocks", .array []),
      ("parameters", .array [.object own])])]

/-- The workflow with that parameter. -/
def singleWorkflow (parameter : Parameter) : Workflow where
  id? := none
  permanentId? := none
  title := "Invoices"
  description? := none
  persistBrowserSession? := none
  proxyLocation? := none
  webhookCallbackUrl? := none
  definition := { blocks := [], parameters := [parameter] }

/-- In a document with one parameter, the members of the kind that it names have
the shape. -/
theorem ownShape_of_shape {spelling : Spelling} {own : Members} {tag : String}
    (named : Keyed.find? "parameter_type" own = some (.string tag))
    (shape : Shape spelling (singleParameter own)) : Parameter.OwnShape spelling own tag := by
  obtain ⟨members, same, shape⟩ := shape
  cases same
  obtain ⟨_, found, definitionMembers, rfl, -, parameters⟩ := shape.definition.find?
  simp only [Keyed.find?_cons, String.reduceEq, ↓reduceIte, Option.some.injEq,
    Json.object.injEq] at found
  subst found
  obtain ⟨_, found, items, rfl, shapes⟩ := parameters.find?
  simp only [Keyed.find?_cons, String.reduceEq, ↓reduceIte, Option.some.injEq,
    Json.array.injEq] at found
  subst found
  obtain ⟨_, sameOwn, ownShape⟩ := shapes _ (List.mem_singleton_self _)
  cases sameOwn
  obtain ⟨_, sameTag, own⟩ := ownShape.kind.of_find? named
  cases sameTag
  exact own

/-- A context parameter whose source is the array of a key. -/
def listedSource : Members :=
  [("key", .string "k"), ("parameter_type", .string "context"),
    ("source", .array [.string "site"])]

/-- An input whose type is an object. -/
def objectType (content : Json) : Members :=
  [("key", .string "k"), ("parameter_type", .string "workflow"),
    ("workflow_parameter_type", .object [("string", content)])]

theorem not_plain_listedSource : ¬Shape .plain (singleParameter listedSource) := by
  intro shape
  have own : Parameter.OwnShape .plain listedSource "context" :=
    ownShape_of_shape (by simp [listedSource]) shape
  have listed : Keyed.find? "source" listedSource = some (.array [.string "site"]) := by
    simp [listedSource]
  obtain ⟨_, same, -⟩ := own.1.of_find? listed
  contradiction

theorem not_plain_objectType (content : Json) :
    ¬Shape .plain (singleParameter (objectType content)) := by
  intro shape
  have own : Parameter.OwnShape .plain (objectType content) "workflow" :=
    ownShape_of_shape (by simp [objectType]) shape
  have written : Keyed.find? "workflow_parameter_type" (objectType content) =
      some (.object [("string", content)]) := by
    simp [objectType]
  obtain ⟨_, _, same⟩ := own.1.of_find? written
  contradiction

/-- A source that is an array is read, and so is a type that is an object with
null or with an empty object; none of them is of the plain shape. -/
theorem read_without_plain_shape :
    ((∃ workflow, ofJson (singleParameter listedSource) true = .ok workflow) ∧
      ¬Shape .plain (singleParameter listedSource)) ∧
    ((∃ workflow, ofJson (singleParameter (objectType .null)) true = .ok workflow) ∧
      ¬Shape .plain (singleParameter (objectType .null))) ∧
    (∃ workflow, ofJson (singleParameter (objectType (.object []))) true = .ok workflow) ∧
      ¬Shape .plain (singleParameter (objectType (.object []))) := by
  let input : Parameter := .input {
    key := "k", description? := none, inputType := .string, defaultValue? := none }
  let context : Parameter := .context {
    key := "k", description? := none, source := { key := "site" }, value? := none }
  refine ⟨⟨?_, not_plain_listedSource⟩, ⟨?_, not_plain_objectType _⟩,
    ?_, not_plain_objectType _⟩
  · exact ⟨singleWorkflow context, by decide +kernel⟩
  · exact ⟨singleWorkflow input, by decide +kernel⟩
  · exact ⟨singleWorkflow input, by decide +kernel⟩

end Workflow

end WorkflowEditor
