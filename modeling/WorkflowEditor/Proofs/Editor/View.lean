import WorkflowEditor.Editor.State
import WorkflowEditor.Proofs.Json.Normal
import WorkflowEditor.Proofs.Workflow.Shape

/-!
# The editor's view of a document

What the editor opens with can be read off the document itself, without decoding
it: `EditorView.ofDocument` renames members, leaves hidden parameters out and
drops what is absent or null.  `EditorView.toJson_ofWorkflow` shows that decoding
the document, normalizing its parameters and writing the state gives the same.

The type of an input and the key of a context source have several spellings in
documents, so the view depends on how they are read; taking them verbatim is not
what the editor shows (`EditorView.not_shownVerbatim`).
-/

namespace WorkflowEditor

open Json (Members)

/-- The member of that name, if it is there and not null. -/
def Json.given? (name : String) (value : Json) : Option Json :=
  (value.member? name).filter fun member => member ≠ .null

/-- How the type of an input and the key of a context source are read off the
members that spell them. -/
structure SpellingReader where
  inputType : Json → Json
  sourceKey : Json → Json

namespace SpellingReader

/-- The type is the member itself, and the key is a member of the source. -/
def verbatim : SpellingReader where
  inputType type := type
  sourceKey source := (source.member? "key").getD .null

/-- A type that is an object is the name of its one member, and the key of a
source that is an array is its one item. -/
def accepted : SpellingReader where
  inputType
    | .object [(name, _)] => .string name
    | type => type
  sourceKey
    | .array [key] => key
    | source => (source.member? "key").getD .null

end SpellingReader

namespace EditorView

/-! ## The view -/

/-- The member under its new name, if it is there. -/
def renamed (old new : String) (entry : Json) : Members :=
  ((entry.member? old).map fun member => (new, member)).toList

/-- The member under its new name, if it is there and not null. -/
def renamedIfGiven (old new : String) (entry : Json) : Members :=
  ((entry.given? old).map fun member => (new, member)).toList

/-- The editor's name of a kind of parameters. -/
def kindName : (tag : String) → String
  | "bitwarden_sensitive_information" => "secret"
  | "bitwarden_credit_card_data" => "credit-card-data"
  | "bitwarden_login_credential" => "credential"
  | tag => tag

/-- What the editor shows of the members of a parameter's own kind. -/
def ownMembers (reader : SpellingReader) (entry : Json) : (tag : String) → Members
  | "workflow" =>
      (renamed "workflow_parameter_type" "dataType" entry).map
          (fun member => (member.1, reader.inputType member.2)) ++
        renamedIfGiven "default_value" "defaultValue" entry
  | "context" =>
      (renamed "source" "sourceParameterKey" entry).map
        fun member => (member.1, reader.sourceKey member.2)
  | "bitwarden_sensitive_information" =>
      renamed "bitwarden_collection_id" "collectionId" entry ++
        renamed "bitwarden_identity_key" "identityKey" entry ++
        [("identityFields", (entry.member? "bitwarden_identity_fields").getD (.array []))]
  | "bitwarden_credit_card_data" =>
      renamed "bitwarden_collection_id" "collectionId" entry ++
        renamed "bitwarden_item_id" "itemId" entry
  | "bitwarden_login_credential" =>
      renamedIfGiven "bitwarden_collection_id" "collectionId" entry ++
        renamed "url_parameter_key" "urlParameterKey" entry
  | _ => []

/-- What the editor shows of a parameter of the kind. -/
def entryMembers (reader : SpellingReader) (entry : Json) (tag : String) : Members :=
  ("parameterType", .string (kindName tag)) :: renamed "key" "key" entry ++
    ownMembers reader entry tag ++ renamedIfGiven "description" "description" entry

/-- What the editor shows of a parameter. -/
def ofEntry (reader : SpellingReader) (entry : Json) : Json :=
  .record (((entry.member? "parameter_type").bind Json.text?).elim []
    (entryMembers reader entry))

/-- Whether the editor shows a parameter: it is neither a secret of AWS nor an
output. -/
def isShown (entry : Json) : Bool :=
  entry.member? "parameter_type" ≠ some (.string "aws_secret") &&
    entry.member? "parameter_type" ≠ some (.string "output")

/-- What the editor shows of the settings; without a word about it, the browser
session is not kept. -/
def settings (document : Json) : Json :=
  .record [
    ("persistBrowserSession", (document.given? "persist_browser_session").getD (.bool false)),
    ("proxyLocation", (document.given? "proxy_location").getD .null),
    ("webhookCallbackUrl", (document.given? "webhook_callback_url").getD .null)]

/-- What the editor opens with for a document. -/
def ofDocument (reader : SpellingReader) (document : Json) : Json :=
  let definition := (document.member? "workflow_definition").getD .null
  let entries := ((definition.member? "parameters").bind Json.items?).getD []
  .record [
    ("title", (document.member? "title").getD .null),
    ("settings", settings document),
    ("blocks", (definition.member? "blocks").getD .null),
    ("parameters", .array ((entries.filter isShown).map (ofEntry reader)))]

/-! ## Members that decode -/

section Fields

variable {α : Type} {decoder : Decoder α} {origin : Origin} {members : Members} {name : String}

/-- What an optional field reads stands in the document as it is written. -/
theorem given?_of_reads {value? : Option α} (write : α → Json)
    (read : Decoder.Reads (.option decoder) (.default none) origin
      (Keyed.values name members) value?)
    (writesBack : ∀ content value, Keyed.find? name members = some content →
      decoder.ofTree origin content = .ok value → write value = content) :
    (Json.object members).given? name = value?.map write := by
  rw [Json.given?, Json.member?_object]
  rcases read.default with ⟨absent, rfl⟩ | ⟨content, found, decoded⟩
  · rw [absent]
    rfl
  · rcases Decoder.option_eq_ok_iff.mp decoded with
      ⟨rfl, rfl⟩ | ⟨notNull, value, decodedValue, rfl⟩
    · rw [found]
      rfl
    · rw [found, Option.map_some, writesBack content value found decodedValue]
      simp [Option.filter, notNull]

theorem given?_of_reads_text {text? : Option String}
    (read : Decoder.Reads (.option .text) (.default none) origin
      (Keyed.values name members) text?) :
    (Json.object members).given? name = text?.map .string := by
  apply given?_of_reads .string read
  intro content text _ decoded
  exact (Decoder.text_eq_ok_iff.mp decoded).symm

/-- Any value stands in the document as it is written, if it is in normal form. -/
theorem given?_of_reads_any {value? : Option Json}
    (normal : ∀ value, Keyed.find? name members = some value → value.normalize = value)
    (read : Decoder.Reads (.option .any) (.default none) .buffer
      (Keyed.values name members) value?) :
    (Json.object members).given? name = value? := by
  rw [given?_of_reads id read, Option.map_id, id]
  intro content value found decoded
  cases decoded
  exact normal content found

/-- A field that has to be there is read from the member that is renamed. -/
theorem renamed_of_reads (new : String) {value : α}
    (read : Decoder.Reads decoder .error origin (Keyed.values name members) value) :
    ∃ content, renamed name new (.object members) = [(new, content)] ∧
      decoder.ofTree origin content = .ok value := by
  obtain ⟨content, found, decoded⟩ := read.required
  refine ⟨content, ?_, decoded⟩
  rw [renamed, Json.member?_object, found]
  rfl

theorem renamed_of_reads_text (new : String) {text : String}
    (read : Decoder.Reads .text .error origin (Keyed.values name members) text) :
    renamed name new (.object members) = [(new, .string text)] := by
  obtain ⟨content, present, decoded⟩ := renamed_of_reads new read
  rw [present, Decoder.text_eq_ok_iff.mp decoded]

theorem renamedIfGiven_of_reads_text (new : String) {text? : Option String}
    (read : Decoder.Reads (.option .text) (.default none) origin
      (Keyed.values name members) text?) :
    renamedIfGiven name new (.object members) =
      EditorParameter.present new (text?.map .string) := by
  rw [renamedIfGiven, given?_of_reads_text read]
  rfl

/-- The strings of a list stand in the document as they are. -/
theorem items_eq_map_string {items : List Json} {texts : List String}
    (decoded : List.Forall₂ (fun item text => Decoder.text.ofTree origin item = .ok text)
      items texts) : items = texts.map .string := by
  induction decoded with
  | nil => rfl
  | cons first _ ih => rw [ih, Decoder.text_eq_ok_iff.mp first, List.map_cons]

theorem getD_of_reads_texts {texts : List String}
    (read : Decoder.Reads (.list .text) (.default []) origin
      (Keyed.values name members) texts) :
    ((Json.object members).member? name).getD (.array []) = .array (texts.map .string) := by
  rw [Json.member?_object]
  rcases read.default with ⟨absent, rfl⟩ | ⟨content, found, decoded⟩
  · rw [absent]
    rfl
  · obtain ⟨items, rfl, decodedItems⟩ := Decoder.list_eq_ok_iff.mp decoded
    rw [found, items_eq_map_string decodedItems]
    rfl

end Fields

/-! ## Spellings -/

/-- A type is read as its name, however it is spelled. -/
theorem inputType_accepted_of_decoder {content : Json} {inputType : InputType}
    (decoded : InputType.decoder.ofTree .buffer content = .ok inputType) :
    SpellingReader.accepted.inputType content = .string inputType.name := by
  obtain ⟨name, named, spelled⟩ := Decoder.constants_eq_ok_iff.mp decoded
  have sameName : inputType.name = name := by
    have listed := Keyed.mem_of_find? named
    simp only [List.mem_cons, List.not_mem_nil, or_false, Prod.mk.injEq] at listed
    rcases listed with ⟨rfl, rfl⟩ | ⟨rfl, rfl⟩ | ⟨rfl, rfl⟩ | ⟨rfl, rfl⟩ | ⟨rfl, rfl⟩ |
      ⟨rfl, rfl⟩ | ⟨rfl, rfl⟩ <;> rfl
  rw [sameName]
  rcases spelled with rfl | ⟨_, rfl, -⟩
  · rfl
  · rfl

/-- A source is read as its key, however it is spelled. -/
theorem sourceKey_accepted_of_decoder {content : Json} {source : ContextSource}
    (decoded : ContextSource.decoder.ofTree .buffer content = .ok source) :
    SpellingReader.accepted.sourceKey content = .string source.key := by
  rcases ContextSource.spelled_of_decoder decoded with rfl | ⟨members, rfl, found⟩
  · rfl
  · change (Keyed.find? "key" members).getD .null = .string source.key
    rw [found, Option.getD_some]

/-! ## Kinds of parameters -/

section Kinds

variable {members : Members}

/-- A parameter is shown as its entry tells if the members of its kind are. -/
theorem members_eq_entryMembers (shown : EditorParameter) {tag : String} {own : Members}
    (parts : shown.members =
      ("parameterType", .string (kindName tag)) :: ("key", .string shown.key) :: own ++
        EditorParameter.present "description" (shown.description?.map .string))
    (readKey : Decoder.Reads .text .error .buffer (Keyed.values "key" members) shown.key)
    (readDescription : Decoder.Reads (.option .text) (.default none) .buffer
      (Keyed.values "description" members) shown.description?)
    (sameOwn : ownMembers .accepted (.object members) tag = own) :
    shown.members = entryMembers .accepted (.object members) tag := by
  rw [parts, entryMembers, renamed_of_reads_text "key" readKey,
    renamedIfGiven_of_reads_text "description" readDescription, sameOwn]
  rfl

theorem members_workflow {parameter : InputParameter}
    (normal : ∀ value, Keyed.find? "default_value" members = some value →
      value.normalize = value)
    (decoded : InputParameter.decoder.ofTree .buffer
      (.object (Keyed.erase "parameter_type" members)) = .ok parameter) :
    (EditorParameter.workflow parameter.key parameter.inputType parameter.defaultValue?
      parameter.description?).members = entryMembers .accepted (.object members) "workflow" := by
  obtain ⟨⟨key, description?, inputType, defaultValue?, ⟨⟩⟩, accepted, rfl⟩ :=
    Decoder.record_object_eq_ok_iff.mp decoded
  simp only [Decoder.Fields.accepts_field, Decoder.Fields.accepts_done, and_true, ne_eq,
    String.reduceEq, not_false_eq_true, Keyed.values_erase] at accepted
  obtain ⟨readKey, readDescription, readType, readDefault⟩ := accepted
  obtain ⟨content, renamedType, decodedType⟩ := renamed_of_reads "dataType" readType
  apply members_eq_entryMembers _ rfl readKey readDescription
  unfold ownMembers
  rw [renamedType, renamedIfGiven, given?_of_reads_any normal readDefault,
    List.map_singleton, inputType_accepted_of_decoder decodedType]
  rfl

theorem members_context {parameter : ContextParameter}
    (decoded : ContextParameter.decoder.ofTree .buffer
      (.object (Keyed.erase "parameter_type" members)) = .ok parameter) :
    (EditorParameter.context parameter.key parameter.source.key
      parameter.description?).members = entryMembers .accepted (.object members) "context" := by
  obtain ⟨⟨key, description?, source, value?, ⟨⟩⟩, accepted, rfl⟩ :=
    Decoder.record_object_eq_ok_iff.mp decoded
  simp only [Decoder.Fields.accepts_field, Decoder.Fields.accepts_done, and_true, ne_eq,
    String.reduceEq, not_false_eq_true, Keyed.values_erase] at accepted
  obtain ⟨readKey, readDescription, readSource, -⟩ := accepted
  obtain ⟨content, renamedSource, decodedSource⟩ :=
    renamed_of_reads "sourceParameterKey" readSource
  apply members_eq_entryMembers _ rfl readKey readDescription
  unfold ownMembers
  rw [renamedSource, List.map_singleton, sourceKey_accepted_of_decoder decodedSource]
  rfl

theorem members_secret {parameter : SensitiveInformationParameter}
    (decoded : SensitiveInformationParameter.decoder.ofTree .buffer
      (.object (Keyed.erase "parameter_type" members)) = .ok parameter) :
    (EditorParameter.secret parameter.key parameter.collectionId parameter.identityKey
      parameter.identityFields parameter.description?).members =
        entryMembers .accepted (.object members) "bitwarden_sensitive_information" := by
  obtain ⟨⟨key, description?, collectionId, identityKey, identityFields, ⟨⟩⟩, accepted, rfl⟩ :=
    Decoder.record_object_eq_ok_iff.mp decoded
  simp only [Decoder.Fields.accepts_field, Decoder.Fields.accepts_done, and_true, ne_eq,
    String.reduceEq, not_false_eq_true, Keyed.values_erase] at accepted
  obtain ⟨readKey, readDescription, readCollection, readIdentity, readFields⟩ := accepted
  apply members_eq_entryMembers _ rfl readKey readDescription
  unfold ownMembers
  rw [renamed_of_reads_text "collectionId" readCollection,
    renamed_of_reads_text "identityKey" readIdentity, getD_of_reads_texts readFields]
  rfl

theorem members_creditCardData {parameter : CreditCardParameter}
    (decoded : CreditCardParameter.decoder.ofTree .buffer
      (.object (Keyed.erase "parameter_type" members)) = .ok parameter) :
    (EditorParameter.creditCardData parameter.key parameter.collectionId parameter.itemId
      parameter.description?).members =
        entryMembers .accepted (.object members) "bitwarden_credit_card_data" := by
  obtain ⟨⟨key, description?, collectionId, itemId, ⟨⟩⟩, accepted, rfl⟩ :=
    Decoder.record_object_eq_ok_iff.mp decoded
  simp only [Decoder.Fields.accepts_field, Decoder.Fields.accepts_done, and_true, ne_eq,
    String.reduceEq, not_false_eq_true, Keyed.values_erase] at accepted
  obtain ⟨readKey, readDescription, readCollection, readItem⟩ := accepted
  apply members_eq_entryMembers _ rfl readKey readDescription
  unfold ownMembers
  rw [renamed_of_reads_text "collectionId" readCollection,
    renamed_of_reads_text "itemId" readItem]
  rfl

theorem members_credential {parameter : LoginCredentialParameter}
    (decoded : LoginCredentialParameter.decoder.ofTree .buffer
      (.object (Keyed.erase "parameter_type" members)) = .ok parameter) :
    (EditorParameter.credential parameter.key parameter.collectionId? parameter.urlParameterKey
      parameter.description?).members =
        entryMembers .accepted (.object members) "bitwarden_login_credential" := by
  obtain ⟨⟨key, description?, collectionId?, urlParameterKey, ⟨⟩⟩, accepted, rfl⟩ :=
    Decoder.record_object_eq_ok_iff.mp decoded
  simp only [Decoder.Fields.accepts_field, Decoder.Fields.accepts_done, and_true, ne_eq,
    String.reduceEq, not_false_eq_true, Keyed.values_erase] at accepted
  obtain ⟨readKey, readDescription, readCollection, readUrl⟩ := accepted
  apply members_eq_entryMembers _ rfl readKey readDescription
  unfold ownMembers
  rw [renamedIfGiven_of_reads_text "collectionId" readCollection,
    renamed_of_reads_text "urlParameterKey" readUrl]
  rfl

end Kinds

/-! ## Entries -/

/-- A parameter is shown as the view of its entry, or hidden as the entry is. -/
theorem map_toJson_ofParameter? {entry : Json} {parameter : Parameter}
    (formed : entry.WellFormed) (object : Json.IsObject entry)
    (decoded : Parameter.decoder.ofTree .value entry = .ok parameter) :
    (EditorParameter.ofParameter? parameter).map EditorParameter.toJson =
      if isShown entry then some (ofEntry .accepted entry) else none := by
  obtain ⟨members, rfl⟩ := object
  obtain ⟨found, own⟩ := Parameter.readsOwn_of_decoder decoded
  have shownAs : ofEntry .accepted (.object members) =
      .record (entryMembers .accepted (.object members) parameter.tag) := by
    rw [ofEntry, Json.member?_object, found]
    rfl
  have shown : isShown (.object members) =
      (parameter.tag ≠ "aws_secret" && parameter.tag ≠ "output") := by
    rw [isShown, Json.member?_object, found]
    simp
  have normal : ∀ value, Keyed.find? "default_value" members = some value →
      value.normalize = value :=
    fun value found => Json.normalize_eq_self value (formed.2.of_find? found)
  rw [shownAs, shown]
  cases parameter with
  | input => exact congrArg (fun shown => some (Json.record shown)) (members_workflow normal own)
  | context => exact congrArg (fun shown => some (Json.record shown)) (members_context own)
  | sensitiveInformation =>
      exact congrArg (fun shown => some (Json.record shown)) (members_secret own)
  | creditCard =>
      exact congrArg (fun shown => some (Json.record shown)) (members_creditCardData own)
  | loginCredential =>
      exact congrArg (fun shown => some (Json.record shown)) (members_credential own)
  | awsSecret => rfl
  | output => rfl

/-- The shown parameters are the views of the shown entries, in their order. -/
theorem map_toJson_ofParameters {entries : List Json} {parameters : List Parameter}
    (formed : ∀ entry ∈ entries, entry.WellFormed)
    (objects : ∀ entry ∈ entries, Json.IsObject entry)
    (decoded : List.Forall₂ (fun entry parameter =>
      Parameter.decoder.ofTree .value entry = .ok parameter) entries parameters) :
    (EditorParameter.ofParameters parameters).map EditorParameter.toJson =
      (entries.filter isShown).map (ofEntry .accepted) := by
  induction decoded with
  | nil => rfl
  | @cons entry parameter entries parameters first _ ih =>
      have atFirst := map_toJson_ofParameter? (formed entry List.mem_cons_self)
        (objects entry List.mem_cons_self) first
      have atRest := ih (fun other member => formed other (List.mem_cons_of_mem _ member))
        (fun other member => objects other (List.mem_cons_of_mem _ member))
      rw [EditorParameter.ofParameters] at atRest ⊢
      cases shown : EditorParameter.ofParameter? parameter with
      | none =>
          rw [shown] at atFirst
          have hidden : isShown entry = false := by
            cases visible : isShown entry with
            | false => rfl
            | true => simp [visible] at atFirst
          rw [List.filterMap_cons_none shown, atRest, List.filter_cons_of_neg (by simp [hidden])]
      | some editorParameter =>
          rw [shown] at atFirst
          have visible : isShown entry = true := by
            cases hidden : isShown entry with
            | true => rfl
            | false => simp [hidden] at atFirst
          rw [if_pos visible] at atFirst
          rw [List.filterMap_cons_some shown, List.map_cons, atRest,
            List.filter_cons_of_pos visible, List.map_cons, Option.some.inj atFirst]

/-! ## Documents -/

/-- The blocks stand in the definition as they are. -/
theorem member?_blocks_of_decoder {members : Members} {definition : WorkflowDefinition}
    (decoded : WorkflowDefinition.decoder.ofTree .value (.object members) = .ok definition) :
    (Json.object members).member? "blocks" = some (.array definition.blocks) := by
  obtain ⟨⟨blocks, parameters, ⟨⟩⟩, accepted, rfl⟩ := Decoder.record_object_eq_ok_iff.mp decoded
  obtain ⟨content, found, decodedBlocks⟩ := (Decoder.Fields.accepts_field.mp accepted).1.required
  obtain ⟨items, rfl, same⟩ := Decoder.list_eq_ok_iff.mp decodedBlocks
  have sameItems : items = blocks := by
    apply List.forall₂_eq_eq_eq ▸ same.imp _
    intro item block kept
    exact Except.ok.inj kept
  rw [Json.member?_object, found, sameItems]

/-- The parameters of a definition are decoded from its entries. -/
theorem forall₂_parameters_of_decoder {members : Members} {definition : WorkflowDefinition}
    (decoded : WorkflowDefinition.decoder.ofTree .value (.object members) = .ok definition) :
    ∃ entries, Keyed.find? "parameters" members = some (.array entries) ∧
      List.Forall₂ (fun entry parameter => Parameter.decoder.ofTree .value entry = .ok parameter)
        entries definition.parameters := by
  obtain ⟨⟨blocks, parameters, ⟨⟩⟩, accepted, rfl⟩ := Decoder.record_object_eq_ok_iff.mp decoded
  simp only [Decoder.Fields.accepts_field, Decoder.Fields.accepts_done, and_true, ne_eq,
    String.reduceEq, not_false_eq_true, Keyed.values_erase] at accepted
  obtain ⟨content, found, decodedParameters⟩ := accepted.2.required
  obtain ⟨entries, rfl, related⟩ := Decoder.list_eq_ok_iff.mp decodedParameters
  exact ⟨entries, found, related⟩

/-- A proxy location that is not written as an object is written by its name. -/
theorem string_name_of_decoder {content : Json} {location : ProxyLocation}
    (plain : Json.OrNull ProxyLocation.IsName content)
    (decoded : ProxyLocation.decoder.ofTree .value content = .ok location) :
    Json.string location.name = content := by
  obtain ⟨name, named, rfl | ⟨_, rfl, -⟩⟩ := Decoder.constants_eq_ok_iff.mp decoded
  · have listed := Keyed.mem_of_find? named
    obtain ⟨other, -, same⟩ := List.mem_map.mp listed
    obtain ⟨rfl, rfl⟩ := Prod.mk.inj same
    rfl
  · rcases plain with absent | ⟨_, isText⟩
    · contradiction
    · contradiction

/-- The fields of a workflow that the editor shows are read from members of the
document. -/
structure ReadsWorkflow (members : Members) (workflow : Workflow) : Prop where
  title : Decoder.Reads .text .error .value (Keyed.values "title" members) workflow.title
  persistBrowserSession : Decoder.Reads (.option .flag) (.default none) .value
    (Keyed.values "persist_browser_session" members) workflow.persistBrowserSession?
  proxyLocation : Decoder.Reads (.option ProxyLocation.decoder) (.default none) .value
    (Keyed.values "proxy_location" members) workflow.proxyLocation?
  webhookCallbackUrl : Decoder.Reads (.option .text) (.default none) .value
    (Keyed.values "webhook_callback_url" members) workflow.webhookCallbackUrl?
  definition : Decoder.Reads WorkflowDefinition.decoder .error .value
    (Keyed.values "workflow_definition" members) workflow.definition

theorem readsWorkflow_of_decoder {members : Members} {workflow : Workflow}
    (decoded : Workflow.decoder.ofTree .value (.object members) = .ok workflow) :
    ReadsWorkflow members workflow := by
  obtain ⟨⟨id?, permanentId?, title, description?, persist?, location?, webhook?, definition,
    ⟨⟩⟩, accepted, rfl⟩ := Decoder.record_object_eq_ok_iff.mp decoded
  simp only [Decoder.Fields.accepts_field, Decoder.Fields.accepts_done, and_true, ne_eq,
    String.reduceEq, not_false_eq_true, Keyed.values_erase] at accepted
  obtain ⟨-, -, title, -, persist, location, webhook, definition⟩ := accepted
  exact ⟨title, persist, location, webhook, definition⟩

/-- The settings are read off the document. -/
theorem toJson_settings {members : Members} {workflow : Workflow}
    (reads : ReadsWorkflow members workflow)
    (plain : members.Allows "proxy_location" (Json.OrNull ProxyLocation.IsName)) :
    workflow.settings.toJson = settings (.object members) := by
  have persists : (Json.object members).given? "persist_browser_session" =
      workflow.persistBrowserSession?.map .bool := by
    apply given?_of_reads .bool reads.persistBrowserSession
    intro content flag _ decoded
    exact (Decoder.flag_eq_ok_iff.mp decoded).symm
  have located : (Json.object members).given? "proxy_location" =
      workflow.proxyLocation?.map fun location => .string location.name := by
    apply given?_of_reads (fun location => .string location.name) reads.proxyLocation
    intro content location found decoded
    exact string_name_of_decoder (plain.of_find? found) decoded
  have called := given?_of_reads_text reads.webhookCallbackUrl
  rw [settings, persists, located, called, Settings.toJson, Workflow.settings]
  cases workflow.persistBrowserSession? <;> cases workflow.proxyLocation? <;>
    cases workflow.webhookCallbackUrl? <;> rfl

/-- The shown parameters of a definition are the views of its shown entries. -/
theorem toJson_parameters {members : Members} {definition : WorkflowDefinition}
    (formed : Json.WellFormed (.object members))
    (shape : members.Requires "parameters" (Json.IsListOf (Parameter.Shape .accepted)))
    (decoded : WorkflowDefinition.decoder.ofTree .value (.object members) = .ok definition) :
    ∃ entries, Keyed.find? "parameters" members = some (.array entries) ∧
      (EditorParameter.ofParameters definition.parameters).map EditorParameter.toJson =
        (entries.filter isShown).map (ofEntry .accepted) := by
  obtain ⟨entries, found, related⟩ := forall₂_parameters_of_decoder decoded
  obtain ⟨_, same, entryShapes⟩ := shape.of_find? found
  cases same
  have formedEntries : Json.WellFormedItems entries := formed.2.of_find? found
  refine ⟨entries, found, map_toJson_ofParameters ?_ ?_ related⟩
  · intro entry member
    exact formedEntries.of_mem member
  · intro entry member
    obtain ⟨entryMembers, same, -⟩ := entryShapes entry member
    exact ⟨entryMembers, same⟩

/-- What the editor opens with is its view of the document that was decoded. -/
theorem toJson_of_decoder {document : Json} {workflow : Workflow}
    (formed : document.WellFormed) (hasShape : Workflow.Shape .accepted document)
    (decoded : Workflow.decoder.ofTree .value document = .ok workflow) :
    (EditorState.ofWorkflow workflow).toJson = ofDocument .accepted document := by
  obtain ⟨members, rfl, shape⟩ := hasShape
  have reads := readsWorkflow_of_decoder decoded
  obtain ⟨title, foundTitle, decodedTitle⟩ := reads.title.required
  obtain ⟨definition, foundDefinition, decodedDefinition⟩ := reads.definition.required
  obtain ⟨definitionMembers, rfl, -, parameterShapes⟩ :=
    shape.definition.of_find? foundDefinition
  have formedDefinition : Json.WellFormed (.object definitionMembers) :=
    formed.2.of_find? foundDefinition
  obtain ⟨entries, foundEntries, parameters⟩ :=
    toJson_parameters formedDefinition parameterShapes decodedDefinition
  have blocks := member?_blocks_of_decoder decodedDefinition
  rw [ofDocument, EditorState.toJson]
  simp only [EditorState.ofWorkflow, Workflow.parameters, Workflow.blocks,
    toJson_settings reads shape.proxyLocation, parameters, Json.member?_object, foundTitle,
    foundDefinition, foundEntries, Option.getD_some, Option.bind_some, Json.items?_array,
    Decoder.text_eq_ok_iff.mp decodedTitle]
  rw [Json.member?_object] at blocks
  rw [blocks, Option.getD_some]

/-- What the editor opens with is its view of the document: the title and the
blocks as they are, the settings, and an object for each parameter that is neither
a secret of AWS nor an output, in their order, with the members of the parameter
under their new names and nothing else. -/
theorem toJson_ofWorkflow {document : Json} {workflow : Workflow}
    (formed : document.WellFormed) (read : Workflow.ofJson document true = .ok workflow) :
    (EditorState.ofWorkflow workflow).toJson = ofDocument .accepted document := by
  obtain ⟨conforms, decoded⟩ := Workflow.conforms_of_ofJson read
  have shape := Workflow.shape_of_conforms conforms ⟨workflow, decoded⟩
  exact toJson_of_decoder formed shape decoded

/-- A document with an input that is false by default, an output, which is hidden,
and a credential without a collection. -/
def loginDocument : Json :=
  .object [
    ("persist_browser_session", .bool true),
    ("title", .string "Log in"),
    ("workflow_definition", .object [
      ("blocks", .array [.object []]),
      ("parameters", .array [
        .object [
          ("default_value", .bool false), ("key", .string "remember"),
          ("parameter_type", .string "workflow"),
          ("workflow_parameter_type", .string "boolean")],
        .object [("key", .string "receipt"), ("parameter_type", .string "output")],
        .object [
          ("bitwarden_collection_id", .null), ("key", .string "login"),
          ("parameter_type", .string "bitwarden_login_credential"),
          ("url_parameter_key", .string "site")]])])]

/-- The workflow of that document. -/
def loginWorkflow : Workflow where
  id? := none
  permanentId? := none
  title := "Log in"
  description? := none
  persistBrowserSession? := some true
  proxyLocation? := none
  webhookCallbackUrl? := none
  definition := {
    blocks := [.object []]
    parameters := [
      .input {
        key := "remember", description? := none, inputType := .boolean
        defaultValue? := some (.bool false) },
      .output { key := "receipt", description? := none },
      .loginCredential {
        key := "login", description? := none, collectionId? := none
        urlParameterKey := "site" }] }

theorem wellFormed_loginDocument : loginDocument.WellFormed :=
  Json.wellFormed_of_normalize_eq (by decide +kernel)

/-- The document is well-formed and gives the workflow, which the editor opens as
its view of the document. -/
theorem toJson_loginWorkflow :
    loginDocument.WellFormed ∧ Workflow.ofJson loginDocument true = .ok loginWorkflow ∧
      (EditorState.ofWorkflow loginWorkflow).toJson = ofDocument .accepted loginDocument := by
  have read : Workflow.ofJson loginDocument true = .ok loginWorkflow := by decide +kernel
  exact ⟨wellFormed_loginDocument, read, toJson_ofWorkflow wellFormed_loginDocument read⟩

/-- Of the login document the editor shows the default of the input though it is
false, and nothing of the output or of the collection. -/
example : (EditorState.ofWorkflow loginWorkflow).toJson = .record [
    ("title", .string "Log in"),
    ("settings", .record [
      ("persistBrowserSession", .bool true), ("proxyLocation", .null),
      ("webhookCallbackUrl", .null)]),
    ("blocks", .array [.object []]),
    ("parameters", .array [
      .record [
        ("parameterType", .string "workflow"), ("key", .string "remember"),
        ("dataType", .string "boolean"), ("defaultValue", .bool false)],
      .record [
        ("parameterType", .string "credential"), ("key", .string "login"),
        ("urlParameterKey", .string "site")]])] := by
  decide +kernel

/-- Every text writes a well-formed document, so what the editor opens with is the view of
the document that was read. -/
theorem toJson_ofText {text : String} {format : Document.Format} {workflow : Workflow}
    (read : Workflow.ofText text format true = .ok workflow) :
    ∃ document, Document.parse format text = .ok document ∧
      (EditorState.ofWorkflow workflow).toJson = ofDocument .accepted document := by
  rw [Workflow.ofText] at read
  cases parsed : Document.parse format text with
  | error issues =>
      rw [parsed] at read
      cases read
  | ok document =>
      rw [parsed] at read
      obtain ⟨conforms, decoded⟩ := Workflow.conforms_of_ofJson read
      have shape := Workflow.shape_of_conforms conforms ⟨workflow, decoded⟩
      exact ⟨document, rfl, toJson_of_decoder (Document.wellFormed_of_parse parsed) shape decoded⟩

/-! ## The verbatim view -/

/-- The editor opens the document as the verbatim view of it, if it opens at all. -/
def ShownVerbatim (document : Json) : Prop :=
  ∀ workflow, document.WellFormed → Workflow.ofJson document true = .ok workflow →
    (EditorState.ofWorkflow workflow).toJson = ofDocument .verbatim document

/-- The editor does not show types and sources as they are spelled: of a type that
is an object with null it shows the name, and of a source that is an array the item. -/
theorem not_shownVerbatim :
    ¬ShownVerbatim (Workflow.singleParameter (Workflow.objectType .null)) ∧
      ¬ShownVerbatim (Workflow.singleParameter Workflow.listedSource) := by
  constructor
  · intro verbatim
    have same := verbatim
      (Workflow.singleWorkflow <| .input {
        key := "k", description? := none, inputType := .string, defaultValue? := none })
      (Json.wellFormed_of_normalize_eq (by decide +kernel)) (by decide +kernel)
    revert same
    decide +kernel
  · intro verbatim
    have same := verbatim
      (Workflow.singleWorkflow <| .context {
        key := "k", description? := none, source := { key := "site" }, value? := none })
      (Json.wellFormed_of_normalize_eq (by decide +kernel)) (by decide +kernel)
    revert same
    decide +kernel

end EditorView

end WorkflowEditor
