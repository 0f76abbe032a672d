import WorkflowEditor.Parameter.Codec
import WorkflowEditor.Proofs.Decode.Record

/-!
# The shape of parameters in documents

`Parameter.Shape` says which members a parameter object has, kind by kind.  The
plain spelling of a context source is an object and that of an input's type is
its name; the decoder takes other spellings too, so the shape is stated for any
choice of them, and `Parameter.admits_object_iff` shows which one is read.
-/

namespace WorkflowEditor

open Json (Members IsText IsAny OrNull IsListOf)

/-- The values that spell a context source and the type of an input. -/
structure Spelling where
  source : Json → Prop
  inputType : Json → Prop

namespace Spelling

/-- The names of the types of inputs. -/
def inputTypeNames : List String :=
  ["string", "integer", "float", "boolean", "json", "file_url", "credential_id"]

/-- A source is an object with its key, and a type is its name. -/
def plain : Spelling where
  source value := ∃ members : Members, value = .object members ∧ members.Requires "key" IsText
  inputType value := ∃ name ∈ inputTypeNames, value = .string name

/-- A source may also be the array of its key; a type may also be an object whose
one member has the name of the type and holds nothing. -/
def accepted : Spelling where
  source value := plain.source value ∨ ∃ key, value = .array [.string key]
  inputType value :=
    plain.inputType value ∨
      ∃ name ∈ inputTypeNames, value = .object [(name, .null)] ∨
        value = .object [(name, .object [])]

end Spelling

namespace Parameter

/-- The members that parameters of a kind have of their own.  A member that may
hold anything still may not stand twice. -/
def OwnShape (spelling : Spelling) (members : Members) : (tag : String) → Prop
  | "workflow" =>
      members.Requires "workflow_parameter_type" spelling.inputType ∧
        members.Allows "default_value" IsAny
  | "context" => members.Requires "source" spelling.source ∧ members.Allows "value" IsAny
  | "bitwarden_sensitive_information" =>
      members.Requires "bitwarden_collection_id" IsText ∧
        members.Requires "bitwarden_identity_key" IsText ∧
        members.Allows "bitwarden_identity_fields" (IsListOf IsText)
  | "bitwarden_credit_card_data" =>
      members.Requires "bitwarden_collection_id" IsText ∧
        members.Requires "bitwarden_item_id" IsText
  | "bitwarden_login_credential" =>
      members.Allows "bitwarden_collection_id" (OrNull IsText) ∧
        members.Requires "url_parameter_key" IsText
  | "aws_secret" => members.Requires "aws_key" IsText
  | "output" => True
  | _ => False

/-- The members of a parameter. -/
structure MembersShape (spelling : Spelling) (members : Members) : Prop where
  key : members.Requires "key" IsText
  description : members.Allows "description" (OrNull IsText)
  kind : members.Requires "parameter_type" fun value =>
    ∃ tag, value = .string tag ∧ OwnShape spelling members tag

/-- A parameter is an object with such members. -/
def Shape (spelling : Spelling) (value : Json) : Prop :=
  ∃ members, value = .object members ∧ MembersShape spelling members

/-- Only the seven kinds have a shape. -/
theorem OwnShape.mem_tags {spelling : Spelling} {members : Members} {tag : String}
    (shaped : OwnShape spelling members tag) : tag ∈ tags := by
  unfold OwnShape at shaped
  split at shaped <;> first | contradiction | decide

end Parameter

/-! ## Parts that have several spellings -/

theorem ContextSource.admits_eq {origin : Origin} :
    decoder.Admits origin = Spelling.accepted.source := by
  funext tree
  rw [decoder, Spelling.accepted, Spelling.plain, eq_iff_iff]
  constructor
  · intro admitted
    rcases Decoder.object_or_array_of_admits_record admitted with ⟨members, rfl⟩ | ⟨items, rfl⟩
    · have required : Members.Requires members "key" IsText := by
        simpa using admitted
      exact Or.inl ⟨members, rfl, required⟩
    · obtain ⟨item, rfl, text, rfl⟩ : ∃ item, items = [item] ∧ IsText item := by
        simpa using Decoder.admits_record_array_iff.mp admitted
      exact Or.inr ⟨text, rfl⟩
  · intro accepted
    rcases accepted with ⟨members, rfl, required⟩ | ⟨text, rfl⟩
    · simpa using required
    · exact Decoder.admits_record_array_iff.mpr ⟨.string text, rfl, text, rfl⟩

/-- A source is read from the array of its key, or from an object that holds its key. -/
theorem ContextSource.spelled_of_decoder {origin : Origin} {content : Json}
    {source : ContextSource} (decoded : decoder.ofTree origin content = .ok source) :
    content = .array [.string source.key] ∨
      ∃ members, content = .object members ∧
        Keyed.find? "key" members = some (.string source.key) := by
  rcases Decoder.object_or_array_of_admits_record ⟨source, decoded⟩ with
    ⟨members, rfl⟩ | ⟨items, rfl⟩
  · obtain ⟨⟨key, ⟨⟩⟩, accepted, rfl⟩ := Decoder.record_object_eq_ok_iff.mp decoded
    obtain ⟨held, found, decodedKey⟩ := (Decoder.Fields.accepts_field.mp accepted).1.required
    rw [Decoder.text_eq_ok_iff.mp decodedKey] at found
    exact Or.inr ⟨members, rfl, found⟩
  · obtain ⟨item, key, rfl, decodedKey, rfl⟩ := Decoder.record_array_eq_ok_iff.mp decoded
    rw [Decoder.text_eq_ok_iff.mp decodedKey]
    exact Or.inl rfl

theorem InputType.admits_eq :
    decoder.Admits .buffer = Spelling.accepted.inputType := by
  funext tree
  rw [decoder, Decoder.admits_constants_iff, eq_iff_iff]
  change (∃ name ∈ Spelling.inputTypeNames, _) ↔ _
  constructor
  · intro listed
    rcases listed with ⟨name, named, rfl | ⟨content, rfl, isUnit⟩⟩
    · exact Or.inl ⟨name, named, rfl⟩
    · rcases Decoder.admits_unit_iff.mp isUnit with rfl | ⟨-, rfl⟩
      · exact Or.inr ⟨name, named, Or.inl rfl⟩
      · exact Or.inr ⟨name, named, Or.inr rfl⟩
  · intro accepted
    rcases accepted with ⟨name, named, rfl⟩ | ⟨name, named, rfl | rfl⟩
    · exact ⟨name, named, Or.inl rfl⟩
    · exact ⟨name, named, Or.inr ⟨_, rfl, Decoder.admits_unit_iff.mpr (Or.inl rfl)⟩⟩
    · exact ⟨name, named, Or.inr ⟨_, rfl, Decoder.admits_unit_iff.mpr (Or.inr ⟨rfl, rfl⟩)⟩⟩

/-! ## Kinds -/

namespace Parameter

variable {members : Members}

/-- The decoders of the kinds by their tags. -/
def kindDecoders : List (String × Decoder Parameter) := [
  ("workflow", .map .input InputParameter.decoder),
  ("context", .map .context ContextParameter.decoder),
  ("bitwarden_sensitive_information",
    .map .sensitiveInformation SensitiveInformationParameter.decoder),
  ("bitwarden_credit_card_data", .map .creditCard CreditCardParameter.decoder),
  ("bitwarden_login_credential", .map .loginCredential LoginCredentialParameter.decoder),
  ("aws_secret", .map .awsSecret AwsSecretParameter.decoder),
  ("output", .map .output OutputParameter.decoder)]

theorem decoder_eq : decoder = .tagged "WorkflowParameter" "parameter_type" kindDecoders := rfl

/-- The decoder of a kind asks for the members of that kind. -/
theorem admits_kind_iff : ∀ entry ∈ kindDecoders,
    (entry.2.Admits .buffer (.object (Keyed.erase "parameter_type" members)) ↔
      members.Requires "key" IsText ∧ members.Allows "description" (OrNull IsText) ∧
        OwnShape .accepted members entry.1) := by
  simp [kindDecoders, OwnShape, InputParameter.decoder, ContextParameter.decoder,
    SensitiveInformationParameter.decoder, CreditCardParameter.decoder,
    LoginCredentialParameter.decoder, AwsSecretParameter.decoder, OutputParameter.decoder,
    InputType.admits_eq, ContextSource.admits_eq]

/-- An object is read as a parameter exactly when it has the shape of one. -/
theorem admits_object_iff {origin : Origin} :
    decoder.Admits origin (.object members) ↔ MembersShape .accepted members := by
  rw [decoder_eq, Decoder.admits_tagged_object_iff]
  constructor
  · intro read
    rcases read with ⟨tag, variant, only, known, admitted⟩
    obtain ⟨key, description, own⟩ :=
      (admits_kind_iff (tag, variant) (Keyed.mem_of_find? known)).mp admitted
    exact ⟨key, description, _, only, tag, rfl, own⟩
  · intro shape
    rcases shape with ⟨key, description, _, only, tag, rfl, own⟩
    obtain ⟨variant, known⟩ : ∃ variant, Keyed.find? tag kindDecoders = some variant :=
      Keyed.exists_find?_iff.mpr own.mem_tags
    exact ⟨tag, variant, only, known,
      (admits_kind_iff (tag, variant) (Keyed.mem_of_find? known)).mpr ⟨key, description, own⟩⟩

/-- The members other than the tag are read as a parameter of its kind. -/
def ReadsOwn (members : Members) (parameter : Parameter) : Prop :=
  let content : Json := .object (Keyed.erase "parameter_type" members)
  match parameter with
  | .input own => InputParameter.decoder.ofTree .buffer content = .ok own
  | .context own => ContextParameter.decoder.ofTree .buffer content = .ok own
  | .sensitiveInformation own =>
      SensitiveInformationParameter.decoder.ofTree .buffer content = .ok own
  | .creditCard own => CreditCardParameter.decoder.ofTree .buffer content = .ok own
  | .loginCredential own => LoginCredentialParameter.decoder.ofTree .buffer content = .ok own
  | .awsSecret own => AwsSecretParameter.decoder.ofTree .buffer content = .ok own
  | .output own => OutputParameter.decoder.ofTree .buffer content = .ok own

/-- An object that is read as a parameter names its kind and holds the fields of it. -/
theorem readsOwn_of_decoder {origin : Origin} {parameter : Parameter}
    (decoded : decoder.ofTree origin (.object members) = .ok parameter) :
    Keyed.find? "parameter_type" members = some (.string parameter.tag) ∧
      ReadsOwn members parameter := by
  rw [decoder_eq] at decoded
  obtain ⟨kind, variant, only, known, decodedKind⟩ := Decoder.tagged_object_eq_ok_iff.mp decoded
  have found : Keyed.find? "parameter_type" members = some (.string kind) := by
    rw [Keyed.find?_eq_head?, only]
    rfl
  have listed := Keyed.mem_of_find? known
  simp only [kindDecoders, List.mem_cons, List.not_mem_nil, or_false, Prod.mk.injEq] at listed
  rcases listed with ⟨rfl, rfl⟩ | ⟨rfl, rfl⟩ | ⟨rfl, rfl⟩ | ⟨rfl, rfl⟩ | ⟨rfl, rfl⟩ |
    ⟨rfl, rfl⟩ | ⟨rfl, rfl⟩ <;>
    obtain ⟨own, decodedOwn, rfl⟩ := Decoder.map_eq_ok_iff.mp decodedKind <;>
    exact ⟨found, decodedOwn⟩

end Parameter

end WorkflowEditor
