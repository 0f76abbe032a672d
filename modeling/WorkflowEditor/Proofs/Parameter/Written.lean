import WorkflowEditor.Proofs.Decode.Written
import WorkflowEditor.Proofs.Parameter.Shape

/-!
# Parameters survive being written

A parameter is read back from what it is written as, if the values that it holds are
settled: a default of null would be read as no default.  Decoding gives only settled
parameters, from objects and from arrays alike.
-/

namespace WorkflowEditor

open Json (Members)

namespace Parameter

/-- The value that a parameter holds is settled, if it holds one. -/
def Settled : Parameter → Prop
  | .input parameter => ∀ value ∈ parameter.defaultValue?, value.Settled
  | .context parameter => ∀ value ∈ parameter.value?, value.Settled
  | .sensitiveInformation _ | .creditCard _ | .loginCredential _ | .awsSecret _ | .output _ => True

/-! ## Decoding settles -/

theorem yields_input :
    InputParameter.decoder.Yields .buffer fun parameter => Settled (.input parameter) := by
  refine Decoder.Fields.Yields.record (.skip <| .skip <| .skip .any) ?_
  intro values settled
  exact settled

theorem yields_context :
    ContextParameter.decoder.Yields .buffer fun parameter => Settled (.context parameter) := by
  refine Decoder.Fields.Yields.record (.skip <| .skip <| .skip .any) ?_
  intro values settled
  exact settled

/-- Every parameter that is decoded is settled. -/
theorem yields_settled {origin : Origin} : decoder.Yields origin Settled := by
  rw [decoder_eq]
  apply Decoder.Yields.tagged
  simp only [kindDecoders, List.forall_mem_cons]
  refine ⟨yields_input.map, yields_context.map, ?_, ?_, ?_, ?_, ?_, by simp⟩
  all_goals
    apply Decoder.Yields.map
    apply Decoder.Yields.of_forall
    intro parameter
    trivial

/-! ## Members -/

/-- The members that a parameter is written with. -/
def members (parameter : Parameter) : Members :=
  [("parameter_type", .string parameter.tag),
    ("key", .string parameter.key),
    ("description", .ofText? parameter.description?)] ++
  parameter.ownMembers

theorem toJson_eq_record (parameter : Parameter) : parameter.toJson = .record parameter.members :=
  rfl

theorem distinct_members (parameter : Parameter) : Keyed.Distinct parameter.members := by
  cases parameter <;> simp [members, ownMembers, Keyed.Distinct]

/-- The members other than the tag, as a union collects them. -/
def content (parameter : Parameter) : Json :=
  .object (Keyed.erase "parameter_type" (Keyed.ofList parameter.members))

/-- A parameter is read back when the decoder of its kind reads back what it holds. -/
theorem decoder_toJson_of_kind {α : Type} {parameter : Parameter} {wrap : α → Parameter}
    {kind : Decoder α} {held : α} {origin : Origin}
    (known : Keyed.find? parameter.tag kindDecoders = some (.map wrap kind))
    (back : kind.ofTree .buffer parameter.content = .ok held) (wrapped : wrap held = parameter) :
    decoder.ofTree origin parameter.toJson = .ok parameter := by
  rw [decoder_eq, toJson_eq_record]
  apply Decoder.tagged_record (distinct_members parameter) rfl known
  exact Decoder.map_eq_ok_iff.mpr ⟨held, back, wrapped⟩

/-! ## Kinds -/

/-- A field reads the member that a parameter is written with. -/
theorem reads_member {α : Type} {decoder : Decoder α} {absent : Decoder.Absent α} {name : String}
    {value : Json} {found : α} (parameter : Parameter)
    (written : Keyed.find? name parameter.members = some value)
    (back : decoder.ofTree .buffer value = .ok found) :
    Decoder.Reads decoder absent .buffer
      (Keyed.values name (Keyed.ofList parameter.members)) found :=
  Decoder.Reads.written (distinct_members parameter) written back

/-- What a kind reads is read back, if its own fields are: those that all kinds share
are always read back. -/
theorem record_content {σ ρ α : Type} {name : String} {own : Decoder.Fields σ ρ}
    {build : String × Option String × ρ → α} {held : α} (parameter : Parameter) (values : ρ)
    (built : build (parameter.key, parameter.description?, values) = held)
    (accepted : own.Accepts .buffer
      (Keyed.erase "description" <| Keyed.erase "key" <| Keyed.erase "parameter_type" <|
        Keyed.ofList parameter.members) values) :
    (Decoder.record name
      (.field "key" .text .error <| .field "description" (.option .text) (.default none) own)
      build).ofTree .buffer parameter.content = .ok held := by
  apply Decoder.record_object_eq_ok_iff.mpr
  refine ⟨(parameter.key, parameter.description?, values), ?_, built⟩
  simp only [Decoder.Fields.accepts_field, ne_eq, String.reduceEq, not_false_eq_true,
    Keyed.values_erase]
  refine ⟨reads_member parameter rfl rfl, reads_member parameter rfl ?_, accepted⟩
  exact Decoder.option_text_ofText? _

theorem input_content {parameter : InputParameter} (settled : Settled (.input parameter)) :
    InputParameter.decoder.ofTree .buffer (content (.input parameter)) = .ok parameter := by
  refine record_content (.input parameter) (parameter.inputType, parameter.defaultValue?, ())
    rfl ?_
  simp only [Decoder.Fields.accepts_field, Decoder.Fields.accepts_done, and_true, ne_eq,
    String.reduceEq, not_false_eq_true, Keyed.values_erase]
  constructor
  · apply reads_member (.input parameter) rfl
    cases parameter.inputType <;> rfl
  · apply reads_member (.input parameter) rfl
    exact Decoder.option_any_getD settled

theorem context_content {parameter : ContextParameter} (settled : Settled (.context parameter)) :
    ContextParameter.decoder.ofTree .buffer (content (.context parameter)) = .ok parameter := by
  refine record_content (.context parameter) (parameter.source, parameter.value?, ()) rfl ?_
  simp only [Decoder.Fields.accepts_field, Decoder.Fields.accepts_done, and_true, ne_eq,
    String.reduceEq, not_false_eq_true, Keyed.values_erase]
  constructor
  · apply reads_member (.context parameter) rfl
    rfl
  · apply reads_member (.context parameter) rfl
    exact Decoder.option_any_getD settled

theorem sensitiveInformation_content (parameter : SensitiveInformationParameter) :
    SensitiveInformationParameter.decoder.ofTree .buffer
      (content (.sensitiveInformation parameter)) = .ok parameter := by
  refine record_content (.sensitiveInformation parameter)
    (parameter.collectionId, parameter.identityKey, parameter.identityFields, ()) rfl ?_
  simp only [Decoder.Fields.accepts_field, Decoder.Fields.accepts_done, and_true, ne_eq,
    String.reduceEq, not_false_eq_true, Keyed.values_erase]
  refine ⟨?_, ?_, ?_⟩
  · exact reads_member (.sensitiveInformation parameter) rfl rfl
  · exact reads_member (.sensitiveInformation parameter) rfl rfl
  · apply reads_member (.sensitiveInformation parameter) rfl
    apply Decoder.list_array_map
    intro field member
    rfl

theorem creditCard_content (parameter : CreditCardParameter) :
    CreditCardParameter.decoder.ofTree .buffer (content (.creditCard parameter)) =
      .ok parameter := by
  refine record_content (.creditCard parameter) (parameter.collectionId, parameter.itemId, ())
    rfl ?_
  simp only [Decoder.Fields.accepts_field, Decoder.Fields.accepts_done, and_true, ne_eq,
    String.reduceEq, not_false_eq_true, Keyed.values_erase]
  constructor
  · exact reads_member (.creditCard parameter) rfl rfl
  · exact reads_member (.creditCard parameter) rfl rfl

theorem loginCredential_content (parameter : LoginCredentialParameter) :
    LoginCredentialParameter.decoder.ofTree .buffer (content (.loginCredential parameter)) =
      .ok parameter := by
  refine record_content (.loginCredential parameter)
    (parameter.collectionId?, parameter.urlParameterKey, ()) rfl ?_
  simp only [Decoder.Fields.accepts_field, Decoder.Fields.accepts_done, and_true, ne_eq,
    String.reduceEq, not_false_eq_true, Keyed.values_erase]
  constructor
  · apply reads_member (.loginCredential parameter) rfl
    exact Decoder.option_text_ofText? _
  · exact reads_member (.loginCredential parameter) rfl rfl

theorem awsSecret_content (parameter : AwsSecretParameter) :
    AwsSecretParameter.decoder.ofTree .buffer (content (.awsSecret parameter)) =
      .ok parameter := by
  refine record_content (.awsSecret parameter) (parameter.awsKey, ()) rfl ?_
  simp only [Decoder.Fields.accepts_field, Decoder.Fields.accepts_done, and_true, ne_eq,
    String.reduceEq, not_false_eq_true, Keyed.values_erase]
  exact reads_member (.awsSecret parameter) rfl rfl

theorem output_content (parameter : OutputParameter) :
    OutputParameter.decoder.ofTree .buffer (content (.output parameter)) = .ok parameter :=
  record_content (.output parameter) () rfl Decoder.Fields.accepts_done

/-- A settled parameter is read back from what it is written as. -/
theorem decoder_toJson {parameter : Parameter} {origin : Origin} (settled : parameter.Settled) :
    decoder.ofTree origin parameter.toJson = .ok parameter := by
  cases parameter with
  | input parameter => exact decoder_toJson_of_kind rfl (input_content settled) rfl
  | context parameter => exact decoder_toJson_of_kind rfl (context_content settled) rfl
  | sensitiveInformation parameter =>
      exact decoder_toJson_of_kind rfl (sensitiveInformation_content parameter) rfl
  | creditCard parameter => exact decoder_toJson_of_kind rfl (creditCard_content parameter) rfl
  | loginCredential parameter =>
      exact decoder_toJson_of_kind rfl (loginCredential_content parameter) rfl
  | awsSecret parameter => exact decoder_toJson_of_kind rfl (awsSecret_content parameter) rfl
  | output parameter => exact decoder_toJson_of_kind rfl (output_content parameter) rfl

end Parameter

end WorkflowEditor
