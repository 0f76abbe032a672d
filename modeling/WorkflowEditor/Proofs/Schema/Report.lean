import WorkflowEditor.Proofs.FieldPath.Pointer
import WorkflowEditor.Proofs.Schema.Conformance
import WorkflowEditor.Proofs.Schema.Violations

/-!
# What the check of workflows reports

`Schema.WorkflowDemands` lists the places that the schema of workflows speaks of,
each with its demand.  The check reports one issue for each demand that the
document breaks, at the place where it does, and nothing else
(`Schema.checkById_workflowId_report`).  The place of an issue has gone through a
pointer; the names that the schema speaks of come back from a pointer, and so do
indices below `FieldPath.indexBound`.
-/

namespace WorkflowEditor

namespace Schema

/-- The places that the schema of workflows speaks of, with what it demands
there. -/
inductive WorkflowDemands : List Segment → Demand → Prop where
  | document : WorkflowDemands [] ⟨[.object], ["title", "workflow_definition"]⟩
  | id : WorkflowDemands [.key "workflow_id"] ⟨[.string, .null], []⟩
  | permanentId : WorkflowDemands [.key "workflow_permanent_id"] ⟨[.string, .null], []⟩
  | title : WorkflowDemands [.key "title"] ⟨[.string], []⟩
  | description : WorkflowDemands [.key "description"] ⟨[.string, .null], []⟩
  | persistBrowserSession :
      WorkflowDemands [.key "persist_browser_session"] ⟨[.boolean, .null], []⟩
  | proxyLocation : WorkflowDemands [.key "proxy_location"] ⟨[.string, .null], []⟩
  | webhookCallbackUrl : WorkflowDemands [.key "webhook_callback_url"] ⟨[.string, .null], []⟩
  | definition :
      WorkflowDemands [.key "workflow_definition"] ⟨[.object], ["blocks", "parameters"]⟩
  | blocks : WorkflowDemands [.key "workflow_definition", .key "blocks"] ⟨[.array], []⟩
  | block (position : Nat) :
      WorkflowDemands [.key "workflow_definition", .key "blocks", .index position]
        ⟨[.object], []⟩
  | parameters : WorkflowDemands [.key "workflow_definition", .key "parameters"] ⟨[.array], []⟩
  | parameter (position : Nat) :
      WorkflowDemands [.key "workflow_definition", .key "parameters", .index position]
        ⟨[.object], ["key", "parameter_type"]⟩
  | parameterKey (position : Nat) :
      WorkflowDemands
        [.key "workflow_definition", .key "parameters", .index position, .key "key"]
        ⟨[.string], []⟩
  | parameterType (position : Nat) :
      WorkflowDemands
        [.key "workflow_definition", .key "parameters", .index position, .key "parameter_type"]
        ⟨[.string], []⟩
  | parameterDescription (position : Nat) :
      WorkflowDemands
        [.key "workflow_definition", .key "parameters", .index position, .key "description"]
        ⟨[.string, .null], []⟩

/-- The document breaks the demand at the place by the violation. -/
def Breaks (document : Json) (place : FieldPath) (violation : Violation) : Prop :=
  ∃ demand value, WorkflowDemands place.segments demand ∧
    place.resolve? document = some value ∧ demand.Broken value violation

/-! ## The places of the schema -/

theorem governs_leaf_iff {types : List JsonType} {steps : List Segment} {demand : Demand} :
    Governs (.rules types [] [] none) steps demand ↔ steps = [] ∧ demand = ⟨types, []⟩ := by
  constructor
  · intro governs
    cases governs with
    | here => exact ⟨rfl, rfl⟩
    | member declared _ => exact absurd declared List.not_mem_nil
  · rintro ⟨rfl, rfl⟩
    exact .here

theorem governs_listOf_iff {items : Schema} {steps : List Segment} {demand : Demand} :
    Governs (.listOf items) steps demand ↔
      (steps = [] ∧ demand = ⟨[.array], []⟩) ∨
      ∃ position rest, steps = .index position :: rest ∧ Governs items rest demand := by
  constructor
  · intro governs
    cases governs with
    | here => exact Or.inl ⟨rfl, rfl⟩
    | member declared _ => exact absurd declared List.not_mem_nil
    | item inside => exact Or.inr ⟨_, _, rfl, inside⟩
  · rintro (⟨rfl, rfl⟩ | ⟨position, rest, rfl, inside⟩)
    · exact .here
    · exact .item inside

theorem governs_record_iff {required : List String} {properties : List (String × Schema)}
    {steps : List Segment} {demand : Demand} :
    Governs (.record required properties) steps demand ↔
      (steps = [] ∧ demand = ⟨[.object], required⟩) ∨
      ∃ entry ∈ properties, ∃ rest, steps = .key entry.1 :: rest ∧
        Governs entry.2 rest demand := by
  constructor
  · intro governs
    cases governs with
    | here => exact Or.inl ⟨rfl, rfl⟩
    | member declared inside => exact Or.inr ⟨_, declared, _, rfl, inside⟩
  · rintro (⟨rfl, rfl⟩ | ⟨entry, declared, rest, rfl, inside⟩)
    · exact .here
    · exact .member declared inside

variable {steps : List Segment} {demand : Demand}

/-- Inside a parameter the schema leads to three members. -/
theorem demands_of_governs_parameter (position : Nat) (governs : Governs parameter steps demand) :
    WorkflowDemands
      (.key "workflow_definition" :: .key "parameters" :: .index position :: steps) demand := by
  rcases governs_record_iff.mp governs with ⟨rfl, rfl⟩ | ⟨entry, declared, rest, rfl, inside⟩
  · exact .parameter position
  · simp only [List.mem_cons, List.not_mem_nil, or_false] at declared
    rcases declared with rfl | rfl | rfl <;> obtain ⟨rfl, rfl⟩ := governs_leaf_iff.mp inside
    · exact .parameterKey position
    · exact .parameterType position
    · exact .parameterDescription position

/-- Inside a definition the schema leads to the blocks and the parameters. -/
theorem demands_of_governs_workflowDefinition
    (governs : Governs workflowDefinition steps demand) :
    WorkflowDemands (.key "workflow_definition" :: steps) demand := by
  rcases governs_record_iff.mp governs with ⟨rfl, rfl⟩ | ⟨entry, declared, rest, rfl, inside⟩
  · exact .definition
  · simp only [List.mem_cons, List.not_mem_nil, or_false] at declared
    rcases declared with rfl | rfl <;>
      rcases governs_listOf_iff.mp inside with ⟨rfl, rfl⟩ | ⟨position, rest, rfl, atItem⟩
    · exact .blocks
    · obtain ⟨rfl, rfl⟩ := governs_leaf_iff.mp atItem
      exact .block position
    · exact .parameters
    · cases atItem with
      | definition atParameter => exact demands_of_governs_parameter position atParameter

theorem demands_of_governs (governs : Governs workflow steps demand) :
    WorkflowDemands steps demand := by
  rcases governs_record_iff.mp governs with ⟨rfl, rfl⟩ | ⟨entry, declared, rest, rfl, inside⟩
  · exact .document
  · simp only [List.mem_cons, List.not_mem_nil, or_false] at declared
    rcases declared with rfl | rfl | rfl | rfl | rfl | rfl | rfl | rfl
    case inr.inr.inr.inr.inr.inr.inr => exact demands_of_governs_workflowDefinition inside
    all_goals obtain ⟨rfl, rfl⟩ := governs_leaf_iff.mp inside
    · exact .id
    · exact .permanentId
    · exact .title
    · exact .description
    · exact .persistBrowserSession
    · exact .proxyLocation
    · exact .webhookCallbackUrl

/-- A declared property of a record is governed by its schema. -/
theorem governs_property {required : List String} {properties : List (String × Schema)}
    (entry : String × Schema) (declared : entry ∈ properties)
    (inside : Governs entry.2 steps demand) :
    Governs (.record required properties) (.key entry.1 :: steps) demand :=
  .member declared inside

theorem governs_of_governs_workflowDefinition
    (governs : Governs workflowDefinition steps demand) :
    Governs workflow (.key "workflow_definition" :: steps) demand :=
  governs_property ("workflow_definition", workflowDefinition) (by simp) governs

theorem governs_of_governs_parameter (position : Nat) (governs : Governs parameter steps demand) :
    Governs workflow
      (.key "workflow_definition" :: .key "parameters" :: .index position :: steps) demand := by
  apply governs_of_governs_workflowDefinition
  apply governs_property ("parameters", .listOf (.definition "parameter" parameter)) (by simp)
  exact .item (.definition governs)

/-- The schema of workflows leads to the listed places and to no other. -/
theorem governs_workflow_iff : Governs workflow steps demand ↔ WorkflowDemands steps demand := by
  constructor
  · exact demands_of_governs
  · intro demands
    cases demands with
    | document => exact .here
    | id => exact governs_property ("workflow_id", .nullable .string) (by simp) .here
    | permanentId =>
        exact governs_property ("workflow_permanent_id", .nullable .string) (by simp) .here
    | title => exact governs_property ("title", .ofType .string) (by simp) .here
    | description => exact governs_property ("description", .nullable .string) (by simp) .here
    | persistBrowserSession =>
        exact governs_property ("persist_browser_session", .nullable .boolean) (by simp) .here
    | proxyLocation =>
        exact governs_property ("proxy_location", .nullable .string) (by simp) .here
    | webhookCallbackUrl =>
        exact governs_property ("webhook_callback_url", .nullable .string) (by simp) .here
    | definition => exact governs_of_governs_workflowDefinition .here
    | blocks =>
        apply governs_of_governs_workflowDefinition
        exact governs_property ("blocks", .listOf (.ofType .object)) (by simp) .here
    | block position =>
        apply governs_of_governs_workflowDefinition
        exact governs_property ("blocks", .listOf (.ofType .object)) (by simp) (.item .here)
    | parameters =>
        apply governs_of_governs_workflowDefinition
        exact governs_property ("parameters", .listOf (.definition "parameter" parameter))
          (by simp) .here
    | parameter position => exact governs_of_governs_parameter position .here
    | parameterKey position =>
        apply governs_of_governs_parameter
        exact governs_property ("key", .ofType .string) (by simp) .here
    | parameterType position =>
        apply governs_of_governs_parameter
        exact governs_property ("parameter_type", .ofType .string) (by simp) .here
    | parameterDescription position =>
        apply governs_of_governs_parameter
        exact governs_property ("description", .nullable .string) (by simp) .here

/-! ## The schema is tidy, and its places come back from pointers -/

theorem tidy_leaf (types : List JsonType) : Tidy (.rules types [] [] none) :=
  .rules List.nodup_nil List.Pairwise.nil nofun nofun

theorem tidy_record {required : List String} {properties : List (String × Schema)}
    (requiredOnce : required.Nodup) (declaredOnce : Keyed.Distinct properties)
    (inProperties : ∀ entry ∈ properties, Tidy entry.2) : Tidy (.record required properties) :=
  .rules requiredOnce declaredOnce inProperties nofun

theorem tidy_listOf {items : Schema} (inItems : Tidy items) : Tidy (.listOf items) :=
  .rules List.nodup_nil List.Pairwise.nil nofun fun _ same => Option.some.inj same ▸ inItems

theorem tidy_parameter : Tidy parameter := by
  apply tidy_record (by decide) (by simp [Keyed.Distinct])
  simp only [List.forall_mem_cons]
  exact ⟨tidy_leaf _, tidy_leaf _, tidy_leaf _, by simp⟩

theorem tidy_workflowDefinition : Tidy workflowDefinition := by
  apply tidy_record (by decide) (by simp [Keyed.Distinct])
  simp only [List.forall_mem_cons]
  exact ⟨tidy_listOf (tidy_leaf _), tidy_listOf (.definition tidy_parameter), by simp⟩

theorem tidy_workflow : Tidy workflow := by
  apply tidy_record (by decide) (by simp [Keyed.Distinct])
  simp only [List.forall_mem_cons]
  exact ⟨tidy_leaf _, tidy_leaf _, tidy_leaf _, tidy_leaf _, tidy_leaf _, tidy_leaf _,
    tidy_leaf _, tidy_workflowDefinition, by simp⟩

/-- The names that the schema of workflows speaks of. -/
def workflowNames : List String :=
  ["workflow_id", "workflow_permanent_id", "title", "description", "persist_browser_session",
    "proxy_location", "webhook_callback_url", "workflow_definition", "blocks", "parameters",
    "key", "parameter_type"]

/-- None of the names is empty or spelled like an index. -/
theorem isPlain_of_mem_workflowNames :
    ∀ name ∈ workflowNames, name ≠ "" ∧ FieldPath.indexOfStep? name.toList = none := by
  decide

theorem WorkflowDemands.mem_workflowNames (demands : WorkflowDemands steps demand) :
    ∀ name, .key name ∈ steps → name ∈ workflowNames := by
  cases demands <;> simp [workflowNames]

/-- A place that the schema speaks of comes back from its pointer. -/
theorem WorkflowDemands.isPlain (demands : WorkflowDemands steps demand)
    (bounded : ∀ position, .index position ∈ steps → position < FieldPath.indexBound) :
    ∀ step ∈ steps, FieldPath.IsPlain step := by
  intro step member
  cases step with
  | key name => exact isPlain_of_mem_workflowNames name (demands.mem_workflowNames name member)
  | index position => exact bounded position member

/-! ## The report -/

theorem breaks_iff_mem_violations {document : Json} {place : FieldPath} {violation : Violation} :
    (place, violation) ∈ workflow.violations .root document ↔
      Breaks document place violation := by
  rw [mem_violations_iff]
  constructor
  · rintro ⟨steps, demand, value, rfl, governs, reached, broken⟩
    exact ⟨demand, value, governs_workflow_iff.mp governs, reached, broken⟩
  · rintro ⟨demand, value, demands, reached, broken⟩
    exact ⟨place.segments, demand, value, rfl, governs_workflow_iff.mpr demands, reached, broken⟩

/-- The check of workflows reports one error for each demand that the document
breaks, and nothing else, in the order of issues.  The error stands at the place
of the broken demand, read back from its pointer, which changes nothing as long
as its indices are below `FieldPath.indexBound`, and no array in memory is longer.
So nothing is reported exactly when the document conforms to the schema. -/
theorem checkById_workflowId_report (document : Json) :
    ∃ broken : List (FieldPath × Violation),
      broken.Nodup ∧
      (∀ place violation, (place, violation) ∈ broken ↔ Breaks document place violation) ∧
      (checkById workflowId document).Perm (broken.map fun entry => {
        kind := "schema_error"
        severity := .error
        parameterKey? := none
        path := .ofPointer entry.1.toPointer
        message := entry.2.message
        reference? := some "json_schema.validation"
        related? := none }) ∧
      ((checkById workflowId document).Pairwise fun left right => (left.compare right).isLE) ∧
      (∀ entry ∈ broken,
        (∀ position, .index position ∈ entry.1.segments → position < FieldPath.indexBound) →
          FieldPath.ofPointer entry.1.toPointer = entry.1) ∧
      (checkById workflowId document = [] ↔ workflow.Conforms document) := by
  rw [checkById_workflowId]
  refine ⟨workflow.violations .root document, tidy_workflow.nodup_violations,
    fun _ _ => breaks_iff_mem_violations, Issue.sort_perm _, Issue.pairwise_sort _, ?_,
    check_eq_nil_iff⟩
  intro entry listed bounded
  obtain ⟨demand, -, demands, -⟩ := breaks_iff_mem_violations.mp listed
  exact FieldPath.ofPointer_toPointer_of_isPlain (demands.isPlain bounded)

end Schema

end WorkflowEditor
