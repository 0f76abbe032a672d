import WorkflowEditor.Parameter.Codec

/-!
# Parameters in the editor

The editor shows a parameter under names of its own and leaves secrets of AWS and
outputs out.  An editor parameter is written with the name of its kind first and
without what is absent.
-/

namespace WorkflowEditor

/-- The kinds of parameters that the editor shows. -/
inductive EditorParameterKind where
  | workflow
  | context
  | secret
  | creditCardData
  | credential
  deriving DecidableEq, Repr, Inhabited

/-- A parameter as the editor shows it. -/
inductive EditorParameter where
  | workflow (key : String) (dataType : InputType) (defaultValue? : Option Json)
      (description? : Option String)
  | context (key sourceParameterKey : String) (description? : Option String)
  | secret (key collectionId identityKey : String) (identityFields : List String)
      (description? : Option String)
  | creditCardData (key collectionId itemId : String) (description? : Option String)
  | credential (key : String) (collectionId? : Option String) (urlParameterKey : String)
      (description? : Option String)
  deriving DecidableEq, Repr

namespace EditorParameterKind

/-- The name of a kind. -/
def name : EditorParameterKind → String
  | .workflow => "workflow"
  | .context => "context"
  | .secret => "secret"
  | .creditCardData => "credit-card-data"
  | .credential => "credential"

/-- Read a kind. -/
def decoder : Decoder EditorParameterKind :=
  .constants [
    ("workflow", .workflow),
    ("context", .context),
    ("secret", .secret),
    ("credit-card-data", .creditCardData),
    ("credential", .credential)]

end EditorParameterKind

namespace EditorParameter

/-- The key of a parameter. -/
def key : EditorParameter → String
  | .workflow key .. | .context key .. | .secret key .. | .creditCardData key ..
  | .credential key .. => key

/-- The kind of a parameter. -/
def kind : EditorParameter → EditorParameterKind
  | .workflow .. => .workflow
  | .context .. => .context
  | .secret .. => .secret
  | .creditCardData .. => .creditCardData
  | .credential .. => .credential

/-- The description of a parameter. -/
def description? : EditorParameter → Option String
  | .workflow _ _ _ description? => description?
  | .context _ _ description? => description?
  | .secret _ _ _ _ description? => description?
  | .creditCardData _ _ _ description? => description?
  | .credential _ _ _ description? => description?

/-! ## From workflow parameters -/

/-- Whether the editor shows a parameter. -/
def isShown : Parameter → Bool
  | .awsSecret _ | .output _ => false
  | _ => true

/-- The parameter as the editor shows it. -/
def ofParameter? : Parameter → Option EditorParameter
  | .input parameter =>
      some (.workflow parameter.key parameter.inputType parameter.defaultValue?
        parameter.description?)
  | .context parameter =>
      some (.context parameter.key parameter.source.key parameter.description?)
  | .sensitiveInformation parameter =>
      some (.secret parameter.key parameter.collectionId parameter.identityKey
        parameter.identityFields parameter.description?)
  | .creditCard parameter =>
      some (.creditCardData parameter.key parameter.collectionId parameter.itemId
        parameter.description?)
  | .loginCredential parameter =>
      some (.credential parameter.key parameter.collectionId? parameter.urlParameterKey
        parameter.description?)
  | .awsSecret _ | .output _ => none

/-- The parameters that the editor shows, in their order. -/
def ofParameters (parameters : List Parameter) : List EditorParameter :=
  parameters.filterMap ofParameter?

@[simp] theorem isSome_ofParameter? (parameter : Parameter) :
    (ofParameter? parameter).isSome = isShown parameter := by
  cases parameter <;> rfl

/-- A member for what is there. -/
def present (name : String) (value? : Option Json) : Json.Members :=
  (value?.map fun value => (name, value)).toList

/-- The members of a parameter, in the order in which reports write them. -/
def members (parameter : EditorParameter) : Json.Members :=
  ("parameterType", .string parameter.kind.name) ::
  ("key", .string parameter.key) ::
  (match parameter with
    | .workflow _ dataType defaultValue? _ =>
        ("dataType", .string dataType.name) :: present "defaultValue" defaultValue?
    | .context _ sourceParameterKey _ => [("sourceParameterKey", .string sourceParameterKey)]
    | .secret _ collectionId identityKey identityFields _ =>
        [("collectionId", .string collectionId), ("identityKey", .string identityKey),
         ("identityFields", .array (identityFields.map .string))]
    | .creditCardData _ collectionId itemId _ =>
        [("collectionId", .string collectionId), ("itemId", .string itemId)]
    | .credential _ collectionId? urlParameterKey _ =>
        present "collectionId" (collectionId?.map .string) ++
          [("urlParameterKey", .string urlParameterKey)]) ++
  present "description" (parameter.description?.map .string)

/-- A parameter as JSON. -/
def toJson (parameter : EditorParameter) : Json := .record parameter.members

/-- Read a workflow input. -/
def workflowDecoder : Decoder EditorParameter :=
  .record "struct variant DisplayParameter::Workflow"
    (.field "key" .text .error <|
     .field "dataType" InputType.decoder .error <|
     .field "defaultValue" (.option .any) (.default none) <|
     .field "description" (.option .text) (.default none) .done)
    fun (key, dataType, defaultValue?, description?, ()) =>
      .workflow key dataType defaultValue? description?

/-- Read a value taken from another parameter. -/
def contextDecoder : Decoder EditorParameter :=
  .record "struct variant DisplayParameter::Context"
    (.field "key" .text .error <|
     .field "sourceParameterKey" .text .error <|
     .field "description" (.option .text) (.default none) .done)
    fun (key, sourceParameterKey, description?, ()) =>
      .context key sourceParameterKey description?

/-- Read fields of an identity. -/
def secretDecoder : Decoder EditorParameter :=
  .record "struct variant DisplayParameter::Secret"
    (.field "key" .text .error <|
     .field "collectionId" .text .error <|
     .field "identityKey" .text .error <|
     .field "identityFields" (.list .text) .error <|
     .field "description" (.option .text) (.default none) .done)
    fun (key, collectionId, identityKey, identityFields, description?, ()) =>
      .secret key collectionId identityKey identityFields description?

/-- Read a credit card. -/
def creditCardDataDecoder : Decoder EditorParameter :=
  .record "struct variant DisplayParameter::CreditCardData"
    (.field "key" .text .error <|
     .field "collectionId" .text .error <|
     .field "itemId" .text .error <|
     .field "description" (.option .text) (.default none) .done)
    fun (key, collectionId, itemId, description?, ()) =>
      .creditCardData key collectionId itemId description?

/-- Read a login. -/
def credentialDecoder : Decoder EditorParameter :=
  .record "struct variant DisplayParameter::Credential"
    (.field "key" .text .error <|
     .field "collectionId" (.option .text) (.default none) <|
     .field "urlParameterKey" .text .error <|
     .field "description" (.option .text) (.default none) .done)
    fun (key, collectionId?, urlParameterKey, description?, ()) =>
      .credential key collectionId? urlParameterKey description?

/-- Read a parameter. -/
def decoder : Decoder EditorParameter :=
  .tagged "DisplayParameter" "parameterType" [
    ("workflow", workflowDecoder),
    ("context", contextDecoder),
    ("secret", secretDecoder),
    ("credit-card-data", creditCardDataDecoder),
    ("credential", credentialDecoder)]

end EditorParameter

end WorkflowEditor
