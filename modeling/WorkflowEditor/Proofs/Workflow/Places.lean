import WorkflowEditor.Proofs.Editor.View
import WorkflowEditor.Proofs.Parameter.Report

/-!
# Reported places in documents

The check of parameters sees a workflow and not the document that it was read from, but
it reports places in the document.  `Workflow.resolve?_path_of_mem_check` follows them:
each leads to the text that offends, unless a context parameter spells its source as an
array.  Then the place does not exist; the text is the item of the array.
-/

namespace WorkflowEditor

open Json (Members)

namespace Parameter

/-! ## Places -/

/-- The place of the source of the parameter at an index. -/
def sourcePath (index : Nat) : FieldPath := (path index).key "source"

theorem sourceKey_ne_key (index other : Nat) :
    (path index).key "key" ≠ (sourcePath other).key "key" := by
  simp [path, sourcePath, FieldPath.key, FieldPath.index, FieldPath.root]

theorem sourceKey_injective {index other : Nat}
    (same : (sourcePath index).key "key" = (sourcePath other).key "key") : index = other := by
  simpa [path, sourcePath, FieldPath.key, FieldPath.index, FieldPath.root] using same

/-! ## Offending texts -/

/-- The issue is about that text: a blank key, a key that an earlier parameter has, or
the source of a context parameter that is its own key or that no parameter with a visible
key has. -/
inductive Offends (parameters : List Parameter) : Issue → (text : String) → Prop where
  | blankKey {index : Nat} {parameter : Parameter} (found : parameters[index]? = some parameter)
      (blank : Text.trim parameter.key = "") :
      Offends parameters (blankKey index) parameter.key
  | repeatedKey {index first : Nat} {parameter : Parameter}
      (found : parameters[index]? = some parameter) (earlier : first < index)
      (held : parameters[first]?.map key = some parameter.key) :
      Offends parameters (repeatedKey index first parameter.key) parameter.key
  | selfSource {index : Nat} {context : ContextParameter}
      (found : parameters[index]? = some (.context context))
      (itself : context.source.key = context.key) :
      Offends parameters (selfSource index context.key) context.source.key
  | unknownSource {index : Nat} {context : ContextParameter}
      (found : parameters[index]? = some (.context context))
      (unknown : ∀ other ∈ parameters,
        Text.trim other.key ≠ "" → other.key ≠ context.source.key) :
      Offends parameters (unknownSource index context.key context.source.key)
        context.source.key

/-- A reported issue is about the key of a parameter, and its place is that of the key, or
it is about the source of a context parameter, and its place is that of the source's
key. -/
theorem offends_of_mem_check {parameters : List Parameter} {issue : Issue}
    (reported : issue ∈ check parameters) :
    ∃ index parameter, parameters[index]? = some parameter ∧
      ((issue.path = (path index).key "key" ∧ Offends parameters issue parameter.key) ∨
        ∃ context, parameter = .context context ∧ issue.path = (sourcePath index).key "key" ∧
          Offends parameters issue context.source.key) := by
  rw [check_eq_report, report] at reported
  obtain ⟨⟨parameter, index⟩, entry, reported⟩ := List.mem_flatMap.mp reported
  have found : parameters[index]? = some parameter := List.mem_zipIdx_iff_getElem?.mp entry
  refine ⟨index, parameter, found, ?_⟩
  rcases List.mem_append.mp reported with aboutKey | aboutSource
  · left
    rcases keyReport?_eq_some_iff.mp (Option.mem_toList.mp aboutKey) with
      ⟨blank, rfl⟩ | ⟨-, first, earlier, held, -, rfl⟩
    · exact ⟨rfl, .blankKey found blank⟩
    · exact ⟨rfl, .repeatedKey found earlier held⟩
  · right
    obtain ⟨context, rfl, wrong⟩ := sourceReport?_eq_some_iff.mp (Option.mem_toList.mp aboutSource)
    refine ⟨context, rfl, ?_⟩
    rcases wrong with ⟨itself, rfl⟩ | ⟨-, unknown, rfl⟩
    · exact ⟨rfl, .selfSource found itself⟩
    · exact ⟨rfl, .unknownSource found unknown⟩

/-! ## Keys and sources in entries -/

section Entries

variable {members : Members}

/-- A record that starts with the key reads it from the member of that name. -/
theorem find?_key_of_record {σ ρ α : Type} {label : String} {others : Decoder.Fields σ ρ}
    {build : String × ρ → α} {value : α} (keyOf : α → String)
    (first : ∀ values, keyOf (build values) = values.1)
    (decoded : (Decoder.record label (.field "key" .text .error others) build).ofTree .buffer
      (.object (Keyed.erase "parameter_type" members)) = .ok value) :
    Keyed.find? "key" members = some (.string (keyOf value)) := by
  obtain ⟨values, accepted, rfl⟩ := Decoder.record_object_eq_ok_iff.mp decoded
  have read := (Decoder.Fields.accepts_field.mp accepted).1
  rw [Keyed.values_erase (by decide)] at read
  obtain ⟨content, found, decodedKey⟩ := read.required
  rw [found, Decoder.text_eq_ok_iff.mp decodedKey, first]

/-- The key of a parameter is a member of its entry, whatever its kind. -/
theorem ReadsOwn.find?_key {parameter : Parameter} (reads : ReadsOwn members parameter) :
    Keyed.find? "key" members = some (.string parameter.key) := by
  cases parameter with
  | input => exact find?_key_of_record InputParameter.key (fun _ => rfl) reads
  | context => exact find?_key_of_record ContextParameter.key (fun _ => rfl) reads
  | sensitiveInformation =>
      exact find?_key_of_record SensitiveInformationParameter.key (fun _ => rfl) reads
  | creditCard => exact find?_key_of_record CreditCardParameter.key (fun _ => rfl) reads
  | loginCredential =>
      exact find?_key_of_record LoginCredentialParameter.key (fun _ => rfl) reads
  | awsSecret => exact find?_key_of_record AwsSecretParameter.key (fun _ => rfl) reads
  | output => exact find?_key_of_record OutputParameter.key (fun _ => rfl) reads

/-- The source of a context parameter is a member of its entry, in one of two spellings. -/
theorem ReadsOwn.find?_source {context : ContextParameter}
    (reads : ReadsOwn members (.context context)) :
    Keyed.find? "source" members = some (.array [.string context.source.key]) ∨
      ∃ sourceMembers, Keyed.find? "source" members = some (.object sourceMembers) ∧
        Keyed.find? "key" sourceMembers = some (.string context.source.key) := by
  obtain ⟨⟨key, description?, source, value?, ⟨⟩⟩, accepted, rfl⟩ :=
    Decoder.record_object_eq_ok_iff.mp reads
  simp only [Decoder.Fields.accepts_field, Decoder.Fields.accepts_done, and_true, ne_eq,
    String.reduceEq, not_false_eq_true, Keyed.values_erase] at accepted
  obtain ⟨-, -, readSource, -⟩ := accepted
  obtain ⟨content, found, decodedSource⟩ := readSource.required
  rcases ContextSource.spelled_of_decoder decodedSource with
    rfl | ⟨sourceMembers, rfl, foundKey⟩
  · exact Or.inl found
  · exact Or.inr ⟨sourceMembers, found, foundKey⟩

end Entries

end Parameter

/-! ## Entries in documents -/

namespace Workflow

variable {document : Json} {workflow : Workflow}

/-- The path of a parameter leads to the object that it was read from. -/
theorem resolve?_path_of_ofJson (read : ofJson document true = .ok workflow) {index : Nat}
    {parameter : Parameter} (found : workflow.parameters[index]? = some parameter) :
    ∃ members, (Parameter.path index).resolve? document = some (.object members) ∧
      Parameter.ReadsOwn members parameter := by
  obtain ⟨conforms, decoded⟩ := conforms_of_ofJson read
  obtain ⟨members, rfl, shape⟩ := shape_of_conforms conforms ⟨workflow, decoded⟩
  obtain ⟨definition, foundDefinition, decodedDefinition⟩ :=
    (EditorView.readsWorkflow_of_decoder decoded).definition.required
  obtain ⟨definitionMembers, rfl, -, parameterShapes⟩ :=
    shape.definition.of_find? foundDefinition
  obtain ⟨entries, foundEntries, related⟩ :=
    EditorView.forall₂_parameters_of_decoder decodedDefinition
  obtain ⟨_, same, entryShapes⟩ := parameterShapes.of_find? foundEntries
  cases same
  obtain ⟨inside, atIndex⟩ := List.getElem?_eq_some_iff.mp found
  have insideEntries : index < entries.length := related.length_eq ▸ inside
  obtain ⟨entryMembers, isObject, -⟩ := entryShapes entries[index] (List.getElem_mem insideEntries)
  have decodedEntry := related.get insideEntries inside
  refine ⟨entryMembers, ?_, ?_⟩
  · simp [Parameter.path, foundDefinition, foundEntries, Json.item?, insideEntries, isObject]
  · change Parameter.decoder.ofTree .value entries[index] =
      .ok workflow.definition.parameters[index] at decodedEntry
    rw [isObject] at decodedEntry
    exact atIndex ▸ (Parameter.readsOwn_of_decoder decodedEntry).2

/-- The source of the parameter at the index is spelled as an array of one string. -/
def ListsSource (document : Json) (index : Nat) : Prop :=
  ∃ key, (Parameter.sourcePath index).resolve? document = some (.array [.string key])

/-- The place of a key holds the key. -/
theorem resolve?_key_of_ofJson (read : ofJson document true = .ok workflow) {index : Nat}
    {parameter : Parameter} (found : workflow.parameters[index]? = some parameter) :
    ((Parameter.path index).key "key").resolve? document = some (.string parameter.key) := by
  obtain ⟨members, resolved, reads⟩ := resolve?_path_of_ofJson read found
  rw [FieldPath.resolve?_key, resolved, Option.bind_some, Json.member?_object,
    reads.find?_key]

/-- The place of a source's key holds the key, or there is no such place and the source is
the array of the key. -/
theorem resolve?_source_of_ofJson (read : ofJson document true = .ok workflow) {index : Nat}
    {context : ContextParameter} (found : workflow.parameters[index]? = some (.context context)) :
    (¬ListsSource document index ∧
      ((Parameter.sourcePath index).key "key").resolve? document =
        some (.string context.source.key)) ∨
    (ListsSource document index ∧
      ((Parameter.sourcePath index).key "key").resolve? document = none ∧
      ((Parameter.sourcePath index).index 0).resolve? document =
        some (.string context.source.key)) := by
  obtain ⟨members, resolved, reads⟩ := resolve?_path_of_ofJson read found
  have atSource : (Parameter.sourcePath index).resolve? document =
      Keyed.find? "source" members := by
    rw [Parameter.sourcePath, FieldPath.resolve?_key, resolved, Option.bind_some,
      Json.member?_object]
  rcases reads.find?_source with
    listed | ⟨sourceMembers, foundSource, foundKey⟩
  · right
    rw [listed] at atSource
    refine ⟨⟨_, atSource⟩, ?_, ?_⟩
    · rw [FieldPath.resolve?_key, atSource]
      rfl
    · rw [FieldPath.resolve?_index, atSource]
      rfl
  · left
    rw [foundSource] at atSource
    constructor
    · rintro ⟨key, listed⟩
      cases Option.some.inj (atSource.symm.trans listed)
    · rw [FieldPath.resolve?_key, atSource, Option.bind_some, Json.member?_object, foundKey]

/-! ## Places of issues -/

/-- A reported issue is about a text of the document.  Its place holds that text, unless
it is the place of a source's key and that source is an array: then there is no such place
and the text is the item of the array. -/
theorem resolve?_path_of_mem_check (read : ofJson document true = .ok workflow) {issue : Issue}
    (reported : issue ∈ Parameter.check workflow.parameters) :
    ∃ text, Parameter.Offends workflow.parameters issue text ∧
      (issue.path.resolve? document = some (.string text) ↔
        ∀ index, issue.path = (Parameter.sourcePath index).key "key" →
          ¬ListsSource document index) ∧
      ∀ index, issue.path = (Parameter.sourcePath index).key "key" →
        ListsSource document index →
          issue.path.resolve? document = none ∧
            ((Parameter.sourcePath index).index 0).resolve? document = some (.string text) := by
  obtain ⟨index, parameter, found, aboutKey | aboutSource⟩ :=
    Parameter.offends_of_mem_check reported
  · obtain ⟨place, offends⟩ := aboutKey
    have noSource : ∀ other, issue.path ≠ (Parameter.sourcePath other).key "key" := by
      intro other
      rw [place]
      exact Parameter.sourceKey_ne_key index other
    refine ⟨parameter.key, offends, ?_, fun other same => absurd same (noSource other)⟩
    rw [place, resolve?_key_of_ofJson read found]
    exact iff_of_true rfl fun other same => absurd (place.trans same) (noSource other)
  · obtain ⟨context, rfl, place, offends⟩ := aboutSource
    have onlyIndex : ∀ other, issue.path = (Parameter.sourcePath other).key "key" →
        other = index :=
      fun other same => (Parameter.sourceKey_injective (place.symm.trans same)).symm
    refine ⟨context.source.key, offends, ?_⟩
    rcases resolve?_source_of_ofJson read found with
      ⟨notListed, resolved⟩ | ⟨listed, missing, item⟩
    · rw [← place] at resolved
      constructor
      · exact iff_of_true resolved fun other same => onlyIndex other same ▸ notListed
      · intro other same listed
        exact absurd (onlyIndex other same ▸ listed) notListed
    · rw [← place] at missing
      constructor
      · rw [missing]
        exact iff_of_false nofun fun unlisted => unlisted index place listed
      · intro other same _
        rw [onlyIndex other same]
        exact ⟨missing, item⟩

/-! ## A source in two spellings -/

/-- A context parameter whose source is an object with a key. -/
def plainSource : Members :=
  [("key", .string "k"), ("parameter_type", .string "context"),
    ("source", .object [("key", .string "site")])]

/-- A workflow with one context parameter, which names no parameter. -/
def danglingWorkflow : Workflow :=
  singleWorkflow <| .context {
    key := "k", description? := none, source := { key := "site" }, value? := none }

theorem ofJson_plainSource : ofJson (singleParameter plainSource) true = .ok danglingWorkflow := by
  decide +kernel

theorem ofJson_listedSource :
    ofJson (singleParameter listedSource) true = .ok danglingWorkflow := by
  decide +kernel

theorem check_danglingWorkflow :
    Parameter.check danglingWorkflow.parameters = [Parameter.unknownSource 0 "k" "site"] := by
  rw [Parameter.check_eq_report]
  decide +kernel

/-- Both spellings of the source are read alike, so the same place is reported for both:
it holds the source in the one document and does not exist in the other. -/
theorem resolve?_path_of_danglingWorkflow :
    let issue := Parameter.unknownSource 0 "k" "site"
    issue ∈ Parameter.check danglingWorkflow.parameters ∧
    (ofJson (singleParameter plainSource) true = .ok danglingWorkflow ∧
      ∃ text, Parameter.Offends danglingWorkflow.parameters issue text ∧
        issue.path.resolve? (singleParameter plainSource) = some (.string text)) ∧
    ofJson (singleParameter listedSource) true = .ok danglingWorkflow ∧
      issue.path.resolve? (singleParameter listedSource) = none := by
  intro issue
  have reported : issue ∈ Parameter.check danglingWorkflow.parameters := by
    rw [check_danglingWorkflow]
    exact List.mem_singleton_self issue
  refine ⟨reported, ⟨ofJson_plainSource, ?_⟩, ofJson_listedSource, ?_⟩
  · obtain ⟨text, offends, place_iff, -⟩ := resolve?_path_of_mem_check ofJson_plainSource reported
    refine ⟨text, offends, place_iff.mpr fun index same => ?_⟩
    cases Parameter.sourceKey_injective same
    rintro ⟨key, listed⟩
    cases listed
  · obtain ⟨text, -, -, listed⟩ := resolve?_path_of_mem_check ofJson_listedSource reported
    exact (listed 0 rfl ⟨"site", rfl⟩).1

/-- Every reported place holds the text that the issue is about. -/
def PlacesExist (document : Json) : Prop :=
  ∀ workflow, ofJson document true = .ok workflow →
    ∀ issue ∈ Parameter.check workflow.parameters,
      ∃ text, issue.path.resolve? document = some (.string text) ∧
        Parameter.Offends workflow.parameters issue text

/-- A place is reported that the document does not have. -/
theorem not_forall_placesExist :
    ¬∀ document : Json, document.WellFormed → PlacesExist document := by
  intro exist
  have formed : (singleParameter listedSource).WellFormed :=
    Json.wellFormed_of_normalize_eq (by decide +kernel)
  obtain ⟨text, resolved, -⟩ := exist _ formed danglingWorkflow ofJson_listedSource _
    (check_danglingWorkflow ▸ List.mem_singleton_self _)
  cases resolved

end Workflow

end WorkflowEditor
