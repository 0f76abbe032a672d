import WorkflowEditor.Editor.Parameter
import WorkflowEditor.Proofs.Parameter.Written

/-!
# Shown parameters survive being written

An editor parameter is written without what it does not have, and reading takes a
missing member for nothing.  So it is read back, unless it holds null: that is written
as a member and read as nothing.  Decoded parameters never hold null as a default, and
the editor shows them as they are, so whatever it shows of them is read back; and what
is read back is written in no other way (`EditorParameter.survives_writing`).
-/

namespace WorkflowEditor

open Json (Members IsObject)

namespace EditorParameter

/-- The default that a parameter holds is settled, if it holds one. -/
def Settled : EditorParameter → Prop
  | .workflow _ _ defaultValue? _ => ∀ value ∈ defaultValue?, value.Settled
  | .context .. | .secret .. | .creditCardData .. | .credential .. => True

/-- A settled parameter is shown with a settled default. -/
theorem settled_of_ofParameter? {parameter : Parameter} {shown : EditorParameter}
    (settled : parameter.Settled) (isShown : ofParameter? parameter = some shown) :
    shown.Settled := by
  cases parameter with
  | input parameter =>
      cases isShown
      exact settled
  | awsSecret parameter => contradiction
  | output parameter => contradiction
  | _ =>
      cases isShown
      trivial

/-- The parameter is shown among parameters that were decoded from a document. -/
def Produced (shown : EditorParameter) : Prop :=
  ∃ document parameters, (Decoder.list Parameter.decoder).decode document = .ok parameters ∧
    shown ∈ ofParameters parameters

theorem Produced.settled {shown : EditorParameter} (produced : shown.Produced) :
    shown.Settled := by
  obtain ⟨document, parameters, decoded, member⟩ := produced
  obtain ⟨parameter, declared, isShown⟩ := List.mem_filterMap.mp member
  have settled := Parameter.yields_settled.list document parameters decoded
  exact settled_of_ofParameter? (settled parameter declared) isShown

/-! ## Members -/

theorem toJson_eq_record (shown : EditorParameter) : shown.toJson = .record shown.members := rfl

theorem distinct_members (shown : EditorParameter) : Keyed.Distinct shown.members := by
  cases shown with
  | workflow key dataType defaultValue? description? =>
      cases defaultValue? <;> cases description? <;> simp [members, present, Keyed.Distinct]
  | context key sourceParameterKey description? =>
      cases description? <;> simp [members, present, Keyed.Distinct]
  | secret key collectionId identityKey identityFields description? =>
      cases description? <;> simp [members, present, Keyed.Distinct]
  | creditCardData key collectionId itemId description? =>
      cases description? <;> simp [members, present, Keyed.Distinct]
  | credential key collectionId? urlParameterKey description? =>
      cases collectionId? <;> cases description? <;> simp [members, present, Keyed.Distinct]

/-- The members other than the tag, as a union collects them. -/
def content (shown : EditorParameter) : Json :=
  .object (Keyed.erase "parameterType" (Keyed.ofList shown.members))

/-- The decoders of the kinds by their tags. -/
def kindDecoders : List (String × Decoder EditorParameter) := [
  ("workflow", workflowDecoder),
  ("context", contextDecoder),
  ("secret", secretDecoder),
  ("credit-card-data", creditCardDataDecoder),
  ("credential", credentialDecoder)]

theorem decoder_eq : decoder = .tagged "DisplayParameter" "parameterType" kindDecoders := rfl

theorem find?_parameterType (shown : EditorParameter) :
    Keyed.find? "parameterType" shown.members = some (.string shown.kind.name) := rfl

theorem find?_description (shown : EditorParameter) :
    Keyed.find? "description" shown.members = shown.description?.map .string := by
  cases shown with
  | workflow key dataType defaultValue? description? =>
      cases defaultValue? <;> cases description? <;> rfl
  | context key sourceParameterKey description? => cases description? <;> rfl
  | secret key collectionId identityKey identityFields description? =>
      cases description? <;> rfl
  | creditCardData key collectionId itemId description? => cases description? <;> rfl
  | credential key collectionId? urlParameterKey description? =>
      cases collectionId? <;> cases description? <;> rfl

/-! ## Kinds -/

/-- A field reads the member that a parameter is written with. -/
theorem reads_member {α : Type} {decoder : Decoder α} {absent : Decoder.Absent α} {name : String}
    {value : Json} {found : α} (shown : EditorParameter)
    (written : Keyed.find? name shown.members = some value)
    (back : decoder.ofTree .buffer value = .ok found) :
    Decoder.Reads decoder absent .buffer
      (Keyed.values name (Keyed.ofList shown.members)) found :=
  Decoder.Reads.written (distinct_members shown) written back

/-- A field reads the text that a parameter is written with, or none. -/
theorem reads_text? {name : String} {text? : Option String} (shown : EditorParameter)
    (written : Keyed.find? name shown.members = text?.map .string) :
    Decoder.Reads (.option .text) (.default none) .buffer
      (Keyed.values name (Keyed.ofList shown.members)) text? :=
  Decoder.Reads.written? (distinct_members shown) written fun _ _ => rfl

theorem workflowDecoder_content {key : String} {dataType : InputType}
    {defaultValue? : Option Json} {description? : Option String}
    (settled : Settled (.workflow key dataType defaultValue? description?)) :
    workflowDecoder.ofTree .buffer
        (content (.workflow key dataType defaultValue? description?)) =
      .ok (.workflow key dataType defaultValue? description?) := by
  apply Decoder.record_object_eq_ok_iff.mpr
  refine ⟨(key, dataType, defaultValue?, description?, ()), ?_, rfl⟩
  simp only [Decoder.Fields.accepts_field, Decoder.Fields.accepts_done, and_true, ne_eq,
    String.reduceEq, not_false_eq_true, Keyed.values_erase]
  refine ⟨reads_member _ rfl rfl, reads_member _ rfl ?_, ?_, reads_text? _ (find?_description _)⟩
  · cases dataType <;> rfl
  · have written : Keyed.find? "defaultValue"
        (members (.workflow key dataType defaultValue? description?)) = defaultValue?.map id := by
      cases defaultValue? <;> cases description? <;> rfl
    apply Decoder.Reads.written? (distinct_members _) written
    intro value given
    exact Decoder.option_any_of_settled (settled value given)

theorem contextDecoder_content (key sourceParameterKey : String) (description? : Option String) :
    contextDecoder.ofTree .buffer (content (.context key sourceParameterKey description?)) =
      .ok (.context key sourceParameterKey description?) := by
  apply Decoder.record_object_eq_ok_iff.mpr
  refine ⟨(key, sourceParameterKey, description?, ()), ?_, rfl⟩
  simp only [Decoder.Fields.accepts_field, Decoder.Fields.accepts_done, and_true, ne_eq,
    String.reduceEq, not_false_eq_true, Keyed.values_erase]
  exact ⟨reads_member _ rfl rfl, reads_member _ rfl rfl, reads_text? _ (find?_description _)⟩

theorem secretDecoder_content (key collectionId identityKey : String)
    (identityFields : List String) (description? : Option String) :
    secretDecoder.ofTree .buffer
        (content (.secret key collectionId identityKey identityFields description?)) =
      .ok (.secret key collectionId identityKey identityFields description?) := by
  apply Decoder.record_object_eq_ok_iff.mpr
  refine ⟨(key, collectionId, identityKey, identityFields, description?, ()), ?_, rfl⟩
  simp only [Decoder.Fields.accepts_field, Decoder.Fields.accepts_done, and_true, ne_eq,
    String.reduceEq, not_false_eq_true, Keyed.values_erase]
  refine ⟨reads_member _ rfl rfl, reads_member _ rfl rfl, reads_member _ rfl rfl,
    reads_member _ rfl ?_, reads_text? _ (find?_description _)⟩
  exact Decoder.list_array_map fun _ _ => rfl

theorem creditCardDataDecoder_content (key collectionId itemId : String)
    (description? : Option String) :
    creditCardDataDecoder.ofTree .buffer
        (content (.creditCardData key collectionId itemId description?)) =
      .ok (.creditCardData key collectionId itemId description?) := by
  apply Decoder.record_object_eq_ok_iff.mpr
  refine ⟨(key, collectionId, itemId, description?, ()), ?_, rfl⟩
  simp only [Decoder.Fields.accepts_field, Decoder.Fields.accepts_done, and_true, ne_eq,
    String.reduceEq, not_false_eq_true, Keyed.values_erase]
  exact ⟨reads_member _ rfl rfl, reads_member _ rfl rfl, reads_member _ rfl rfl,
    reads_text? _ (find?_description _)⟩

theorem credentialDecoder_content (key : String) (collectionId? : Option String)
    (urlParameterKey : String) (description? : Option String) :
    credentialDecoder.ofTree .buffer
        (content (.credential key collectionId? urlParameterKey description?)) =
      .ok (.credential key collectionId? urlParameterKey description?) := by
  apply Decoder.record_object_eq_ok_iff.mpr
  refine ⟨(key, collectionId?, urlParameterKey, description?, ()), ?_, rfl⟩
  simp only [Decoder.Fields.accepts_field, Decoder.Fields.accepts_done, and_true, ne_eq,
    String.reduceEq, not_false_eq_true, Keyed.values_erase]
  have collection : Keyed.find? "collectionId"
      (members (.credential key collectionId? urlParameterKey description?)) =
        collectionId?.map .string := by
    cases collectionId? <;> cases description? <;> rfl
  have url : Keyed.find? "urlParameterKey"
      (members (.credential key collectionId? urlParameterKey description?)) =
        some (.string urlParameterKey) := by
    cases collectionId? <;> rfl
  exact ⟨reads_member _ rfl rfl, reads_text? _ collection, reads_member _ url rfl,
    reads_text? _ (find?_description _)⟩

/-! ## Reading back -/

/-- A settled parameter is read back from what it is written as. -/
theorem decoder_toJson {shown : EditorParameter} {origin : Origin} (settled : shown.Settled) :
    decoder.ofTree origin shown.toJson = .ok shown := by
  have back : ∃ variant, Keyed.find? shown.kind.name kindDecoders = some variant ∧
      variant.ofTree .buffer shown.content = .ok shown := by
    cases shown with
    | workflow => exact ⟨_, rfl, workflowDecoder_content settled⟩
    | context => exact ⟨_, rfl, contextDecoder_content ..⟩
    | secret => exact ⟨_, rfl, secretDecoder_content ..⟩
    | creditCardData => exact ⟨_, rfl, creditCardDataDecoder_content ..⟩
    | credential => exact ⟨_, rfl, credentialDecoder_content ..⟩
  obtain ⟨variant, known, back⟩ := back
  rw [decoder_eq, toJson_eq_record]
  exact Decoder.tagged_record (distinct_members shown) (find?_parameterType shown) known back

/-- Settled parameters that are written alike are the same. -/
theorem toJson_injective {shown other : EditorParameter} (settled : shown.Settled)
    (otherSettled : other.Settled) (same : shown.toJson = other.toJson) : shown = other := by
  have back : decoder.decode shown.toJson = .ok shown := decoder_toJson settled
  have otherBack : decoder.decode other.toJson = .ok other := decoder_toJson otherSettled
  rw [same, otherBack] at back
  exact (Except.ok.inj back).symm

/-- The kind of a parameter is written as its tag and is read back from there. -/
theorem member?_parameterType (shown : EditorParameter) :
    shown.toJson.member? "parameterType" = some (.string shown.kind.name) := by
  rw [toJson_eq_record, Json.record, Json.member?_object, (distinct_members shown).find?_ofList,
    find?_parameterType]

/-- Whatever the editor shows of decoded parameters is written as an object that is read
back as the same parameter and that names its kind; and no two different ones are written
alike. -/
theorem survives_writing :
    (∀ shown : EditorParameter, shown.Produced →
      IsObject shown.toJson ∧ decoder.decode shown.toJson = .ok shown ∧
        ∃ tag, shown.toJson.member? "parameterType" = some tag ∧
          tag = .string shown.kind.name ∧
          EditorParameterKind.decoder.decode tag = .ok shown.kind) ∧
    ∀ shown other : EditorParameter, shown.Produced → other.Produced →
      shown.toJson = other.toJson → shown = other := by
  constructor
  · intro shown produced
    have kind : EditorParameterKind.decoder.decode (.string shown.kind.name) = .ok shown.kind := by
      cases shown.kind <;> rfl
    exact ⟨⟨_, rfl⟩, decoder_toJson produced.settled, _, member?_parameterType shown, rfl, kind⟩
  · intro shown other produced otherProduced
    exact toJson_injective produced.settled otherProduced.settled

/-- The editor's parameter with null for its default is read back without a default. -/
example : decoder.decode (toJson (.workflow "page" .json (some .null) none)) =
    .ok (.workflow "page" .json none none) := by
  decide +kernel

/-! ## A parameter of each kind -/

/-- A document with a parameter of each kind that is shown, two of them with a part that
the others of their kind may leave out, and an output, which is hidden. -/
def everyKindDocument : Json :=
  .array [
    .object [
      ("default_value", .object [("pages", .array [.ofNat 1, .null])]),
      ("key", .string "range"), ("parameter_type", .string "workflow"),
      ("workflow_parameter_type", .string "json")],
    .object [
      ("default_value", .null), ("key", .string "page"), ("parameter_type", .string "workflow"),
      ("workflow_parameter_type", .object [("string", .null)])],
    .object [
      ("description", .string "Start"), ("key", .string "start"),
      ("parameter_type", .string "context"), ("source", .array [.string "page"])],
    .array [
      .string "bitwarden_sensitive_information", .string "person", .null, .string "team",
      .string "id", .array [.string "name"]],
    .object [("key", .string "total"), ("parameter_type", .string "output")],
    .object [
      ("bitwarden_collection_id", .string "team"), ("bitwarden_item_id", .string "card"),
      ("key", .string "card"), ("parameter_type", .string "bitwarden_credit_card_data")],
    .object [
      ("key", .string "login"), ("parameter_type", .string "bitwarden_login_credential"),
      ("url_parameter_key", .string "page")]]

/-- What the editor shows of the parameters of that document. -/
def everyKindShown : List EditorParameter := [
  .workflow "range" .json (some (.object [("pages", .array [.ofNat 1, .null])])) none,
  .workflow "page" .string none none,
  .context "start" "page" (some "Start"),
  .secret "person" "team" "id" ["name"] none,
  .creditCardData "card" "team" "card" none,
  .credential "login" none "page" none]

/-- The parameters of each kind are read back, and they are written differently. -/
theorem survives_writing_everyKind :
    (∀ shown ∈ everyKindShown, shown.Produced ∧ decoder.decode shown.toJson = .ok shown) ∧
      (everyKindShown.map toJson).Nodup := by
  have decoded : ∃ parameters,
      (Decoder.list Parameter.decoder).decode everyKindDocument = .ok parameters ∧
        ofParameters parameters = everyKindShown := by
    exact ⟨_, rfl, by decide +kernel⟩
  obtain ⟨parameters, decoded, isShown⟩ := decoded
  have produced : ∀ shown ∈ everyKindShown, shown.Produced :=
    fun shown member => ⟨everyKindDocument, parameters, decoded, isShown ▸ member⟩
  refine ⟨fun shown member => ⟨produced shown member, ?_⟩, ?_⟩
  · exact (survives_writing.1 shown (produced shown member)).2.1
  · have distinct : everyKindShown.Nodup := by decide +kernel
    apply List.pairwise_map.mpr
    refine distinct.imp_of_mem fun {shown other} member otherMember differ same => differ ?_
    exact survives_writing.2 shown other (produced shown member) (produced other otherMember) same

end EditorParameter

end WorkflowEditor
