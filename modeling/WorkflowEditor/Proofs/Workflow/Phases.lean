import Mathlib.Data.List.Basic
import WorkflowEditor.Proofs.Parameter.Order
import WorkflowEditor.Workflow.Document

/-!
# The phases of reading a workflow

A document is first checked for parameters of unknown kinds and against the
schema, and it is decoded only when neither finds anything.  What the two checks
find is sorted together; since all kinds of parameters are reported before all
violations of the schema, and each part is in order by itself, sorting only puts
one part before the other.  `Workflow.ofJson_phases` states the outcome.
-/

namespace WorkflowEditor

namespace Workflow

/-! ## Parameters of unknown kinds -/

/-- The number of parameters that a document declares. -/
def parameterCount (document : Json) : Nat :=
  match FieldPath.resolve? ⟨[.key "workflow_definition", .key "parameters"]⟩ document with
  | some (.array items) => items.length
  | _ => 0

/-- What is wrong with the kind of the parameter at an index: the document names
there a kind that is not one of the seven. -/
def kindReport? (document : Json) (index : Nat) : Option Issue :=
  let parameter : FieldPath :=
    ⟨[.key "workflow_definition", .key "parameters", .index index]⟩
  match (parameter.key "parameter_type").resolve? document with
  | some (.string tag) =>
      if tag ∈ Parameter.tags then none
      else
        some {
          kind := "parse_error"
          severity := .error
          parameterKey? := ((parameter.key "key").resolve? document).bind Json.text?
          path := parameter.key "parameter_type"
          message := s!"unsupported parameter_type `{tag}`"
          reference? := some "parse.unknown_parameter_type"
          related? := none }
  | _ => none

/-- What is wrong with the kinds of a document's parameters, by index. -/
def kindReport (document : Json) : List Issue :=
  (List.range (parameterCount document)).filterMap (kindReport? document)

/-- The issue of one parameter is found by following its path through the
document. -/
theorem unknownKind?_eq_kindReport? {document parameter : Json} {index : Nat}
    (found : (Parameter.path index).resolve? document = some parameter) :
    unknownKind? index parameter = kindReport? document index := by
  have place : FieldPath.mk
      [.key "workflow_definition", .key "parameters", .index index] = Parameter.path index := rfl
  simp only [unknownKind?, kindReport?, place, FieldPath.resolve?_key, found, Option.bind_some]
  cases parameter.member? "parameter_type" with
  | none => rfl
  | some kind =>
      cases kind with
      | string tag =>
          simp only [Option.bind_some, Json.text?_string]
          split
          · rfl
          · cases (parameter.member? "key").bind Json.text? <;> rfl
      | _ => rfl

/-- Visiting the items of a list with their positions is visiting the positions. -/
theorem filterMap_zipIdx_eq {α β : Type} (items : List α) (start : Nat)
    (visit : α × Nat → Option β) :
    (items.zipIdx start).filterMap visit =
      (List.range items.length).filterMap fun position =>
        items[position]?.bind fun item => visit (item, start + position) := by
  induction items generalizing start with
  | nil => rfl
  | cons item rest ih =>
      have shift : ∀ position, start + 1 + position = start + position.succ := by omega
      rw [List.zipIdx_cons, List.length_cons, List.range_succ_eq_map, List.filterMap_cons,
        List.filterMap_cons, List.filterMap_map, ih]
      simp only [Function.comp_def, List.getElem?_cons_succ, List.getElem?_cons_zero,
        Option.bind_some, Nat.add_zero, shift]

/-- The kinds are reported as the document shows them. -/
theorem kindIssues_eq_kindReport (document : Json) :
    kindIssues document = kindReport document := by
  rw [kindIssues, kindReport]
  have places : ∀ index, (Parameter.path index).resolve? document =
      (FieldPath.resolve? ⟨[.key "workflow_definition", .key "parameters"]⟩ document).bind
        (Json.item? index) := fun index => by
    rw [Parameter.path, FieldPath.resolve?_index]
    rfl
  have items : rawParameters document =
      ((FieldPath.resolve? ⟨[.key "workflow_definition", .key "parameters"]⟩ document).bind
        Json.items?).getD [] := by
    change _ = (((FieldPath.root.key "workflow_definition").key "parameters").resolve?
      document |>.bind Json.items?).getD []
    rw [FieldPath.resolve?_key, FieldPath.resolve?_key, FieldPath.resolve?_root,
      Option.bind_some, rawParameters]
  rw [items, parameterCount]
  cases resolved : FieldPath.resolve?
      ⟨[.key "workflow_definition", .key "parameters"]⟩ document with
  | none => rfl
  | some value =>
      cases value with
      | array parameters =>
          simp only [Option.bind_some, Json.items?_array, Option.getD_some]
          rw [filterMap_zipIdx_eq]
          refine List.filterMap_congr ?_
          intro index member
          have inside : index < parameters.length := List.mem_range.mp member
          rw [List.getElem?_eq_getElem inside, Option.bind_some, Nat.zero_add]
          apply unknownKind?_eq_kindReport?
          rw [places, resolved, Option.bind_some, Json.item?, List.getElem?_eq_getElem inside]
      | _ => rfl

/-! ## The order of the two parts -/

/-- An issue about a kind is an error about the parameter at its index. -/
theorem kindReport?_concerns {document : Json} {index : Nat} {issue : Issue}
    (reported : kindReport? document index = some issue) :
    issue.Concerns "parse_error" index ∧
      issue.reference? = some "parse.unknown_parameter_type" ∧ issue.related? = none := by
  rw [kindReport?] at reported
  split at reported
  · split at reported
    · contradiction
    · cases reported
      exact ⟨⟨rfl, rfl, [.key "parameter_type"], rfl⟩, rfl, rfl⟩
  · contradiction

theorem pairwise_kindReport (document : Json) :
    (kindReport document).Pairwise fun left right => left.compare right = .lt := by
  refine List.pairwise_filterMap.mpr (List.pairwise_lt_range.imp fun before => ?_)
  intro left leftReported right rightReported
  exact (kindReport?_concerns leftReported).1.compare_eq_lt
    (kindReport?_concerns rightReported).1 before

/-- A violation of the schema is reported as an error of its own kind. -/
theorem mem_check_schema {schema : Schema} {document : Json} {issue : Issue}
    (reported : issue ∈ schema.check document) :
    issue.severity = .error ∧ issue.kind = "schema_error" ∧
      issue.reference? = some "json_schema.validation" ∧ issue.related? = none := by
  rw [Schema.check, (Issue.sort_perm _).mem_iff, List.mem_map] at reported
  obtain ⟨⟨path, violation⟩, -, rfl⟩ := reported
  exact ⟨rfl, rfl, rfl, rfl⟩

/-- Unknown kinds stand before violations of the schema, and each part stays as
it is. -/
theorem sort_append_kindReport (schema : Schema) (document : Json) :
    Issue.sort (schema.check document ++ kindReport document) =
      kindReport document ++ schema.check document := by
  have kindError : ∀ issue ∈ kindReport document, ∃ index,
      issue.Concerns "parse_error" index ∧
        issue.reference? = some "parse.unknown_parameter_type" ∧ issue.related? = none := by
    intro issue member
    obtain ⟨index, -, reported⟩ := List.mem_filterMap.mp member
    exact ⟨index, kindReport?_concerns reported⟩
  have between : ∀ left ∈ kindReport document, ∀ right ∈ schema.check document,
      left.compare right = .lt := by
    intro left leftMem right rightMem
    obtain ⟨index, concerns, -⟩ := kindError left leftMem
    obtain ⟨severity, kind, -⟩ := mem_check_schema rightMem
    apply Issue.compare_eq_lt_of_kind
    · rw [concerns.severity_eq, severity]
    · rw [concerns.kind_eq, kind]
      decide
  apply Issue.sort_eq_of_perm List.perm_append_comm
  · refine List.pairwise_append.mpr ⟨?_, Issue.pairwise_sort _, ?_⟩
    · exact (pairwise_kindReport document).imp fun before => by simp [before]
    · intro left leftMem right rightMem
      simp [between left leftMem right rightMem]
  · intro left leftMem right rightMem equal
    rcases List.mem_append.mp leftMem with leftKind | leftSchema <;>
      rcases List.mem_append.mp rightMem with rightKind | rightSchema
    · obtain ⟨-, -, leftReference, leftRelated⟩ := kindError left leftKind
      obtain ⟨-, -, rightReference, rightRelated⟩ := kindError right rightKind
      exact Issue.eq_of_compare_eq equal (leftReference.trans rightReference.symm)
        (leftRelated.trans rightRelated.symm)
    · simp [between left leftKind right rightSchema] at equal
    · have swapped := Std.OrientedCmp.eq_symm equal
      simp [between right rightKind left leftSchema] at swapped
    · obtain ⟨-, -, leftReference, leftRelated⟩ := mem_check_schema leftSchema
      obtain ⟨-, -, rightReference, rightRelated⟩ := mem_check_schema rightSchema
      exact Issue.eq_of_compare_eq equal (leftReference.trans rightReference.symm)
        (leftRelated.trans rightRelated.symm)

/-! ## The outcome -/

/-- The issues of the schema, if it is to be checked. -/
def schemaReport (document : Json) (checkSchema : Bool) : List Issue :=
  if checkSchema then Schema.checkById Schema.workflowId document else []

/-- A document is decoded exactly when neither part finds anything. -/
theorem ofJson_eq (document : Json) (checkSchema : Bool) :
    ofJson document checkSchema =
      if kindReport document ++ schemaReport document checkSchema = [] then
        (decoder.decode document).mapError fun error => [decodeIssue error]
      else .error (kindReport document ++ schemaReport document checkSchema) := by
  have sorted : Issue.sort (schemaReport document checkSchema ++ kindReport document) =
      kindReport document ++ schemaReport document checkSchema := by
    cases checkSchema with
    | false =>
        apply Issue.sort_eq_of_increasing (List.Perm.of_eq _) _
        · simp [schemaReport]
        · simpa [schemaReport] using pairwise_kindReport document
    | true =>
        rw [schemaReport, if_pos rfl, Schema.checkById_workflowId]
        exact sort_append_kindReport Schema.workflow document
  have empty : (schemaReport document checkSchema ++ kindReport document).isEmpty = true ↔
      kindReport document ++ schemaReport document checkSchema = [] := by
    rw [List.isEmpty_iff, List.append_eq_nil_iff, List.append_eq_nil_iff, and_comm]
  rw [← sorted] at empty ⊢
  rw [ofJson, kindIssues_eq_kindReport, ← schemaReport]
  exact if_congr empty rfl rfl

/-- A document gives a workflow when neither part finds anything and it decodes. -/
theorem ofJson_eq_ok_iff {document : Json} {checkSchema : Bool} {workflow : Workflow} :
    ofJson document checkSchema = .ok workflow ↔
      kindReport document = [] ∧ schemaReport document checkSchema = [] ∧
        decoder.decode document = .ok workflow := by
  rw [ofJson_eq, ← and_assoc, ← List.append_eq_nil_iff]
  split
  next nothing =>
    rw [nothing]
    cases decoder.decode document <;> simp [Except.mapError]
  next something =>
    simp [something]

/-- What a document is rejected for: the kind of a parameter, a violation of the
schema, or an error while decoding. -/
theorem mem_of_ofJson_eq_error {document : Json} {checkSchema : Bool} {issues : List Issue}
    (failed : ofJson document checkSchema = .error issues) {issue : Issue}
    (member : issue ∈ issues) :
    (∃ index, kindReport? document index = some issue) ∨
      issue ∈ Schema.workflow.check document ∨ ∃ error, issue = decodeIssue error := by
  rw [ofJson_eq] at failed
  split at failed
  next nothing =>
    cases decoded : decoder.decode document with
    | ok workflow =>
        rw [decoded] at failed
        contradiction
    | error error =>
        rw [decoded] at failed
        cases failed
        exact Or.inr (Or.inr ⟨error, List.mem_singleton.mp member⟩)
  next something =>
    cases failed
    rcases List.mem_append.mp member with inKinds | inSchema
    · obtain ⟨index, -, reported⟩ := List.mem_filterMap.mp inKinds
      exact Or.inl ⟨index, reported⟩
    · rw [schemaReport] at inSchema
      split at inSchema
      · rw [Schema.checkById_workflowId] at inSchema
        exact Or.inr (Or.inl inSchema)
      · contradiction

/-- Reading a document reports every parameter of an unknown kind, by index, and
then the violations of the schema if it is checked, and nothing else.  Only a
document without either is decoded: it gives a workflow, or the one issue of an
error while decoding.  So a failure has issues, and they are errors. -/
theorem ofJson_phases (document : Json) (checkSchema : Bool) :
    (kindReport document ++ schemaReport document checkSchema ≠ [] →
      ofJson document checkSchema =
        .error (kindReport document ++ schemaReport document checkSchema)) ∧
    (kindReport document ++ schemaReport document checkSchema = [] →
      (∃ workflow, ofJson document checkSchema = .ok workflow) ∨
      ∃ message, ofJson document checkSchema = .error [{
        kind := "parse_error"
        severity := .error
        parameterKey? := none
        path := .root
        message := message
        reference? := some "parse.typed_deserialize_error"
        related? := none }]) ∧
    ∀ issues, ofJson document checkSchema = .error issues →
      issues ≠ [] ∧ ∀ issue ∈ issues, issue.severity = .error := by
  refine ⟨fun something => ?_, fun nothing => ?_, fun issues failed => ?_⟩
  · rw [ofJson_eq, if_neg something]
  · rw [ofJson_eq, if_pos nothing]
    cases decoder.decode document with
    | ok workflow => exact Or.inl ⟨workflow, rfl⟩
    | error error => exact Or.inr ⟨_, rfl⟩
  · rw [ofJson_eq] at failed
    split at failed
    next nothing =>
      cases decoded : decoder.decode document with
      | ok workflow =>
          rw [decoded] at failed
          contradiction
      | error error =>
          rw [decoded] at failed
          cases failed
          refine ⟨List.cons_ne_nil _ _, fun issue member => ?_⟩
          rw [List.mem_singleton.mp member]
          rfl
    next something =>
      cases failed
      refine ⟨something, fun issue member => ?_⟩
      rcases List.mem_append.mp member with inKinds | inSchema
      · obtain ⟨index, -, reported⟩ := List.mem_filterMap.mp inKinds
        exact (kindReport?_concerns reported).1.severity_eq
      · rw [schemaReport] at inSchema
        split at inSchema
        · rw [Schema.checkById_workflowId] at inSchema
          exact (mem_check_schema inSchema).1
        · contradiction

end Workflow

end WorkflowEditor
