import Mathlib.Data.List.Basic
import WorkflowEditor.Proofs.Issue.Order
import WorkflowEditor.Proofs.Json.Members
import WorkflowEditor.Schema.Workflow

/-!
# Conformance to a schema

What a schema demands of a value, without the places where the demands fail.  A
check reports nothing exactly when the value conforms.
-/

namespace WorkflowEditor

/-- The values of each type. -/
theorem JsonType.holds_iff {type : JsonType} {value : Json} :
    type.holds value = true ↔
      match type with
      | .null => value = .null
      | .boolean => Json.IsFlag value
      | .string => Json.IsText value
      | .array => ∃ items, value = .array items
      | .object => Json.IsObject value := by
  cases type <;> cases value <;>
    simp [holds, Json.IsFlag, Json.IsText, Json.IsObject]

namespace Schema

/-- An object has all the members; other values need none. -/
def HasMembers (required : List String) (value : Json) : Prop :=
  ∀ members, value = .object members →
    ∀ name ∈ required, (Keyed.find? name members).isSome

mutual

/-- The value follows the schema. -/
def Conforms : Schema → Json → Prop
  | .rules types required properties items?, value =>
      (∃ type ∈ types, type.holds value) ∧ HasMembers required value ∧
        MembersConform properties value ∧ ItemsConform items? value
  | .definition _ target, value => Conforms target value

/-- Members follow the schemas of their names. -/
def MembersConform : List (String × Schema) → Json → Prop
  | [], _ => True
  | (name, schema) :: rest, value =>
      (∀ member, value.member? name = some member → Conforms schema member) ∧
        MembersConform rest value

/-- The items of an array follow the schema. -/
def ItemsConform : Option Schema → Json → Prop
  | none, _ => True
  | some schema, value =>
      ∀ items, value = .array items → ∀ item ∈ items, Conforms schema item

end

theorem typeViolations_eq_nil_iff {types : List JsonType} {path : FieldPath} {value : Json} :
    typeViolations types path value = [] ↔ ∃ type ∈ types, type.holds value := by
  simp [typeViolations]

theorem missingMembers_eq_nil_iff {required : List String} {path : FieldPath} {value : Json} :
    missingMembers required path value = [] ↔ HasMembers required value := by
  cases value with
  | object members =>
      simp [missingMembers, HasMembers, Option.isSome_iff_ne_none]
  | _ => simp [missingMembers, HasMembers]

mutual

/-- A value without violations conforms, and a value that conforms has none. -/
theorem violations_eq_nil_iff : (schema : Schema) → (path : FieldPath) → (value : Json) →
    (violations schema path value = [] ↔ Conforms schema value)
  | .rules types required properties items?, path, value => by
      rw [violations, Conforms, List.append_eq_nil_iff, List.append_eq_nil_iff,
        List.append_eq_nil_iff, typeViolations_eq_nil_iff, missingMembers_eq_nil_iff,
        propertyViolations_eq_nil_iff properties path value,
        itemViolations_eq_nil_iff items? path value, and_assoc, and_assoc]
  | .definition _ target, path, value => by
      rw [violations, Conforms]
      exact violations_eq_nil_iff target path value

theorem propertyViolations_eq_nil_iff : (properties : List (String × Schema)) →
    (path : FieldPath) → (value : Json) →
    (propertyViolations properties path value = [] ↔ MembersConform properties value)
  | [], _, _ => by simp [propertyViolations, MembersConform]
  | (name, schema) :: rest, path, value => by
      rw [propertyViolations, MembersConform, List.append_eq_nil_iff,
        propertyViolations_eq_nil_iff rest path value]
      refine and_congr_left fun _ => ?_
      cases value.member? name with
      | none => simp
      | some member => simp [violations_eq_nil_iff schema (path.key name) member]

theorem itemViolations_eq_nil_iff : (items? : Option Schema) → (path : FieldPath) →
    (value : Json) → (itemViolations items? path value = [] ↔ ItemsConform items? value)
  | none, _, _ => by simp [itemViolations, ItemsConform]
  | some schema, path, value => by
      cases value with
      | array items =>
          rw [itemViolations, ItemsConform, List.flatMap_eq_nil_iff]
          constructor
          · intro clean others same item member
            cases same
            obtain ⟨position, found⟩ := List.mem_iff_getElem?.mp member
            have atItem := clean (item, position) (List.mk_mem_zipIdx_iff_getElem?.mpr found)
            exact (violations_eq_nil_iff schema (path.index position) item).mp atItem
          · intro conform entry member
            have inItems := List.fst_mem_of_mem_zipIdx member
            exact (violations_eq_nil_iff schema (path.index entry.2) entry.1).mpr
              (conform items rfl entry.1 inItems)
      | _ => simp [itemViolations, ItemsConform]

end

/-- A check reports nothing exactly when the value conforms. -/
theorem check_eq_nil_iff {schema : Schema} {value : Json} :
    schema.check value = [] ↔ schema.Conforms value := by
  rw [check, Issue.sort_eq_nil_iff, List.map_eq_nil_iff,
    violations_eq_nil_iff schema .root value]

/-! ## The schemas in use -/

/-- A schema of types alone asks for one of the types. -/
theorem conforms_types_iff {types : List JsonType} {value : Json} :
    (rules types [] [] none).Conforms value ↔ ∃ type ∈ types, type.holds value := by
  simp [Conforms, HasMembers, MembersConform, ItemsConform]

@[simp] theorem conforms_text : (ofType .string).Conforms = Json.IsText := by
  funext value
  simp [ofType, conforms_types_iff, JsonType.holds_iff]

@[simp] theorem conforms_object : (ofType .object).Conforms = Json.IsObject := by
  funext value
  simp [ofType, conforms_types_iff, JsonType.holds_iff]

@[simp] theorem conforms_nullable_text : (nullable .string).Conforms = Json.OrNull Json.IsText := by
  funext value
  simp [nullable, conforms_types_iff, JsonType.holds_iff, Json.OrNull, or_comm]

@[simp] theorem conforms_nullable_flag :
    (nullable .boolean).Conforms = Json.OrNull Json.IsFlag := by
  funext value
  simp [nullable, conforms_types_iff, JsonType.holds_iff, Json.OrNull, or_comm]

@[simp] theorem conforms_listOf {items : Schema} :
    (listOf items).Conforms = Json.IsListOf items.Conforms := by
  funext value
  cases value <;>
    simp [listOf, Conforms, HasMembers, MembersConform, ItemsConform, JsonType.holds_iff,
      Json.IsListOf]

@[simp] theorem conforms_definition {name : String} {target : Schema} :
    (definition name target).Conforms = target.Conforms := by
  funext value
  rw [Conforms]

theorem membersConform_iff {properties : List (String × Schema)} {value : Json} :
    MembersConform properties value ↔
      ∀ entry ∈ properties, ∀ member, value.member? entry.1 = some member →
        entry.2.Conforms member := by
  induction properties with
  | nil => simp [MembersConform]
  | cons entry rest ih =>
      rw [MembersConform, ih, List.forall_mem_cons]

@[simp] theorem conforms_record_iff {required : List String}
    {properties : List (String × Schema)} {value : Json} :
    (record required properties).Conforms value ↔
      ∃ members, value = .object members ∧
        (∀ name ∈ required, (Keyed.find? name members).isSome) ∧
        ∀ entry ∈ properties, ∀ member, Keyed.find? entry.1 members = some member →
          entry.2.Conforms member := by
  cases value <;>
    simp [record, Conforms, HasMembers, membersConform_iff, ItemsConform, JsonType.holds_iff,
      Json.IsObject]

end Schema

end WorkflowEditor
