import Mathlib.Data.List.Nodup
import WorkflowEditor.Proofs.Json.Members
import WorkflowEditor.Schema.Basic

/-!
# What a list of violations holds

A schema demands something of every place that its properties and items lead to:
the types of the value there, and the members that an object there has to have.
`Schema.Governs` follows a schema to such a place, and `Demand.Broken` tells how
the value there may break the demand.  The violations of a value are exactly the
broken demands at the places that the value has (`Schema.mem_violations_iff`),
and none of them is listed twice when no name stands twice in the schema
(`Schema.Tidy.nodup_violations`).
-/

namespace WorkflowEditor

/-- What a schema demands of the value at a place: one of the types, and the
members that an object has to have. -/
structure Demand where
  allowed : List JsonType
  required : List String

/-- The value breaks the demand by the violation. -/
inductive Demand.Broken (demand : Demand) : Json → Violation → Prop where
  | wrongType {value : Json} (noneHolds : ∀ type ∈ demand.allowed, type.holds value = false) :
      Broken demand value (.wrongType value demand.allowed)
  | missing {members : Json.Members} {name : String} (required : name ∈ demand.required)
      (absent : Keyed.find? name members = none) :
      Broken demand (.object members) (.missing name)

namespace Schema

/-! ## Following a schema -/

/-- The schema leads along the steps to the demand. -/
inductive Governs : Schema → List Segment → Demand → Prop where
  | here {types : List JsonType} {required : List String}
      {properties : List (String × Schema)} {items? : Option Schema} :
      Governs (.rules types required properties items?) [] ⟨types, required⟩
  | member {types : List JsonType} {required : List String}
      {properties : List (String × Schema)} {items? : Option Schema}
      {name : String} {schema : Schema} {steps : List Segment} {demand : Demand}
      (declared : (name, schema) ∈ properties) (inside : Governs schema steps demand) :
      Governs (.rules types required properties items?) (.key name :: steps) demand
  | item {types : List JsonType} {required : List String}
      {properties : List (String × Schema)} {schema : Schema}
      {position : Nat} {steps : List Segment} {demand : Demand}
      (inside : Governs schema steps demand) :
      Governs (.rules types required properties (some schema)) (.index position :: steps) demand
  | definition {name : String} {target : Schema} {steps : List Segment} {demand : Demand}
      (inside : Governs target steps demand) :
      Governs (.definition name target) steps demand

/-- What passes from the schemas inside a schema to the schema holds of every
schema. -/
@[elab_as_elim] theorem inductionOn {motive : Schema → Prop} (schema : Schema)
    (rules : ∀ types required properties items?,
      (∀ entry ∈ properties, motive entry.2) → (∀ items ∈ items?, motive items) →
        motive (.rules types required properties items?))
    (definition : ∀ name target, motive target → motive (.definition name target)) :
    motive schema := by
  refine @Schema.rec motive (fun properties => ∀ entry ∈ properties, motive entry.2)
    (fun items? => ∀ items ∈ items?, motive items) (fun entry => motive entry.2)
    rules definition ?_ ?_ ?_ ?_ ?_ schema
  · exact nofun
  · intro entry rest atEntry atRest
    exact List.forall_mem_cons.mpr ⟨atEntry, atRest⟩
  · exact nofun
  · intro schema atSchema items same
    cases same
    exact atSchema
  · intro name schema atSchema
    exact atSchema

/-! ## The parts of a list of violations -/

variable {path place : FieldPath} {value : Json} {violation : Violation}

theorem mem_typeViolations_iff {types : List JsonType} :
    (place, violation) ∈ typeViolations types path value ↔
      place = path ∧ (∀ type ∈ types, type.holds value = false) ∧
        violation = .wrongType value types := by
  rw [typeViolations]
  split
  next allowed =>
      obtain ⟨type, member, holds⟩ := List.any_eq_true.mp allowed
      constructor
      · intro listed
        contradiction
      · rintro ⟨-, noneHolds, -⟩
        rw [noneHolds type member] at holds
        contradiction
  next refused =>
      have noneHolds : ∀ type ∈ types, type.holds value = false := by
        simpa using refused
      rw [List.mem_singleton, Prod.mk.injEq]
      exact and_congr_right fun _ => (and_iff_right noneHolds).symm

theorem mem_missingMembers_iff {required : List String} :
    (place, violation) ∈ missingMembers required path value ↔
      place = path ∧ ∃ members name, value = .object members ∧ name ∈ required ∧
        Keyed.find? name members = none ∧ violation = .missing name := by
  cases value with
  | object members =>
      simp only [missingMembers, List.mem_map, List.mem_filter, Option.isNone_iff_eq_none,
        Prod.mk.injEq, Json.object.injEq]
      constructor
      · rintro ⟨name, ⟨isRequired, absent⟩, rfl, rfl⟩
        exact ⟨rfl, members, name, rfl, isRequired, absent, rfl⟩
      · rintro ⟨rfl, _, name, rfl, isRequired, absent, rfl⟩
        exact ⟨name, ⟨isRequired, absent⟩, rfl, rfl⟩
  | _ => simp [missingMembers]

/-- The violations at a place itself are those of its demand. -/
theorem broken_iff {types : List JsonType} {required : List String} :
    (place, violation) ∈ typeViolations types path value ++ missingMembers required path value ↔
      place = path ∧ (Demand.mk types required).Broken value violation := by
  rw [List.mem_append, mem_typeViolations_iff, mem_missingMembers_iff, ← and_or_left]
  refine and_congr_right fun _ => ?_
  constructor
  · intro broken
    rcases broken with ⟨noneHolds, rfl⟩ | ⟨members, name, rfl, isRequired, absent, rfl⟩
    · exact .wrongType noneHolds
    · exact .missing isRequired absent
  · intro broken
    cases broken with
    | wrongType noneHolds => exact Or.inl ⟨noneHolds, rfl⟩
    | missing isRequired absent => exact Or.inr ⟨_, _, rfl, isRequired, absent, rfl⟩

theorem propertyViolations_eq_flatMap (properties : List (String × Schema)) :
    propertyViolations properties path value =
      properties.flatMap fun entry =>
        (value.member? entry.1).elim [] (violations entry.2 (path.key entry.1)) := by
  induction properties with
  | nil => rfl
  | cons entry rest ih =>
      rw [propertyViolations, ih, List.flatMap_cons]
      cases value.member? entry.1 <;> rfl

/-- What a member's schema finds is there when the member is. -/
theorem mem_elim_member_iff {found : Option Json} {entry : FieldPath × Violation}
    {atMember : Json → List (FieldPath × Violation)} :
    entry ∈ found.elim [] atMember ↔ ∃ member, found = some member ∧ entry ∈ atMember member := by
  cases found <;> simp

theorem mem_propertyViolations_iff {properties : List (String × Schema)} :
    (place, violation) ∈ propertyViolations properties path value ↔
      ∃ entry ∈ properties, ∃ member, value.member? entry.1 = some member ∧
        (place, violation) ∈ violations entry.2 (path.key entry.1) member := by
  rw [propertyViolations_eq_flatMap, List.mem_flatMap]
  exact exists_congr fun entry => and_congr_right fun _ => mem_elim_member_iff

theorem mem_itemViolations_iff {items? : Option Schema} :
    (place, violation) ∈ itemViolations items? path value ↔
      ∃ schema, items? = some schema ∧ ∃ position item, value.item? position = some item ∧
        (place, violation) ∈ violations schema (path.index position) item := by
  cases items? with
  | none => simp [itemViolations]
  | some schema =>
      cases value with
      | array items =>
          simp only [itemViolations, List.mem_flatMap, Option.some.injEq, exists_eq_left',
            Prod.exists, List.mk_mem_zipIdx_iff_getElem?, Json.item?]
          exact exists_comm
      | _ => simp [itemViolations, Json.item?]

/-! ## Membership -/

/-- A violation is listed exactly when the schema leads to a place that the value
has, and the value there breaks the demand by it. -/
theorem mem_violations_iff {schema : Schema} :
    (place, violation) ∈ violations schema path value ↔
      ∃ steps demand found, place = ⟨path.segments ++ steps⟩ ∧ schema.Governs steps demand ∧
        FieldPath.resolve? ⟨steps⟩ value = some found ∧ demand.Broken found violation := by
  induction schema using inductionOn generalizing path value with
  | rules types required properties items? atProperties atItems =>
      rw [violations, List.mem_append, List.mem_append, broken_iff, mem_propertyViolations_iff,
        mem_itemViolations_iff]
      constructor
      · rintro ((⟨rfl, broken⟩ | ⟨entry, declared, member, found, listed⟩) |
          ⟨schema, rfl, position, item, found, listed⟩)
        · exact ⟨[], _, value, by rw [List.append_nil], .here, rfl, broken⟩
        · obtain ⟨steps, demand, inner, rfl, governs, reached, broken⟩ :=
            (atProperties entry declared).mp listed
          refine ⟨.key entry.1 :: steps, demand, inner, ?_, .member declared governs, ?_, broken⟩
          · simp
          · simpa [FieldPath.resolve?, Segment.resolve?, found] using reached
        · obtain ⟨steps, demand, inner, rfl, governs, reached, broken⟩ :=
            (atItems schema rfl).mp listed
          refine ⟨.index position :: steps, demand, inner, ?_, .item governs, ?_, broken⟩
          · simp
          · simpa [FieldPath.resolve?, Segment.resolve?, found] using reached
      · rintro ⟨steps, demand, inner, rfl, governs, reached, broken⟩
        cases governs with
        | here =>
            cases reached
            exact Or.inl (Or.inl ⟨by rw [List.append_nil], broken⟩)
        | @member _ _ _ _ name schema steps _ declared governs =>
            obtain ⟨member, found, reached⟩ := Option.bind_eq_some_iff.mp reached
            refine Or.inl (Or.inr ⟨(name, schema), declared, member, found, ?_⟩)
            exact (atProperties _ declared).mpr
              ⟨steps, demand, inner, by simp, governs, reached, broken⟩
        | @item _ _ _ schema position steps _ governs =>
            obtain ⟨item, found, reached⟩ := Option.bind_eq_some_iff.mp reached
            refine Or.inr ⟨schema, rfl, position, item, found, ?_⟩
            exact (atItems schema rfl).mpr
              ⟨steps, demand, inner, by simp, governs, reached, broken⟩
  | definition name target atTarget =>
      rw [violations, atTarget]
      constructor
      · rintro ⟨steps, demand, inner, same, governs, rest⟩
        exact ⟨steps, demand, inner, same, .definition governs, rest⟩
      · rintro ⟨steps, demand, inner, same, governs, rest⟩
        cases governs with
        | definition governs => exact ⟨steps, demand, inner, same, governs, rest⟩

/-! ## No violation is listed twice -/

/-- No name stands twice among the required members or the properties, here and
in the schemas inside. -/
inductive Tidy : Schema → Prop where
  | rules {types : List JsonType} {required : List String}
      {properties : List (String × Schema)} {items? : Option Schema}
      (requiredOnce : required.Nodup) (declaredOnce : Keyed.Distinct properties)
      (inProperties : ∀ entry ∈ properties, Tidy entry.2)
      (inItems : ∀ items, items? = some items → Tidy items) :
      Tidy (.rules types required properties items?)
  | definition {name : String} {target : Schema} (inTarget : Tidy target) :
      Tidy (.definition name target)

/-- The violations below a place lie at places behind it. -/
theorem exists_steps_of_mem_violations {schema : Schema}
    (listed : (place, violation) ∈ violations schema path value) :
    ∃ steps, place.segments = path.segments ++ steps := by
  obtain ⟨steps, -, -, same, -⟩ := mem_violations_iff.mp listed
  exact ⟨steps, congrArg FieldPath.segments same⟩

/-- Behind different steps there are different violations. -/
theorem disjoint_violations {left right : Schema} {leftStep rightStep : Segment}
    (different : leftStep ≠ rightStep) {leftValue rightValue : Json} :
    List.Disjoint (violations left ⟨path.segments ++ [leftStep]⟩ leftValue)
      (violations right ⟨path.segments ++ [rightStep]⟩ rightValue) := by
  intro entry inLeft inRight
  obtain ⟨leftSteps, leftPlace⟩ := exists_steps_of_mem_violations inLeft
  obtain ⟨rightSteps, rightPlace⟩ := exists_steps_of_mem_violations inRight
  rw [leftPlace, List.append_assoc, List.append_assoc] at rightPlace
  have steps := List.append_cancel_left rightPlace
  exact different (List.cons.inj steps).1

theorem nodup_typeViolations (types : List JsonType) : (typeViolations types path value).Nodup := by
  rw [typeViolations]
  split
  · exact List.nodup_nil
  · exact List.nodup_singleton _

theorem nodup_missingMembers {required : List String} (once : required.Nodup) :
    (missingMembers required path value).Nodup := by
  cases value with
  | object members =>
      apply (once.filter _).map
      intro left right same
      exact Violation.missing.inj (Prod.mk.inj same).2
  | _ => exact List.nodup_nil

/-- The violations that properties and items lead to lie at other places than
the value's own. -/
theorem not_mem_of_step {schema : Schema} {step : Segment} {inner : Json} :
    (path, violation) ∉ violations schema ⟨path.segments ++ [step]⟩ inner := by
  intro listed
  obtain ⟨steps, same⟩ := exists_steps_of_mem_violations listed
  have lengths := congrArg List.length same
  simp at lengths

/-- No violation of a tidy schema is listed twice. -/
theorem Tidy.nodup_violations {schema : Schema} (tidy : Tidy schema) :
    (violations schema path value).Nodup := by
  induction tidy generalizing path value with
  | @rules types required properties items? requiredOnce declaredOnce _ _ atProperties atItems =>
      have own : (typeViolations types path value ++
          missingMembers required path value).Nodup := by
        refine List.nodup_append'.mpr
          ⟨nodup_typeViolations types, nodup_missingMembers requiredOnce, ?_⟩
        intro entry inTypes inMissing
        obtain ⟨-, -, isWrongType⟩ := mem_typeViolations_iff.mp inTypes
        obtain ⟨-, _, _, -, -, -, isMissing⟩ := mem_missingMembers_iff.mp inMissing
        rw [isWrongType] at isMissing
        contradiction
      have properties : (propertyViolations properties path value).Nodup := by
        rw [propertyViolations_eq_flatMap, List.nodup_flatMap]
        constructor
        · intro entry declared
          cases value.member? entry.1 with
          | none => exact List.nodup_nil
          | some member => exact atProperties entry declared
        · refine declaredOnce.imp fun {left right} different => ?_
          have steps : Segment.key left.1 ≠ .key right.1 :=
            fun same => different (Segment.key.inj same)
          intro entry inLeft inRight
          obtain ⟨leftMember, -, inLeft⟩ := mem_elim_member_iff.mp inLeft
          obtain ⟨rightMember, -, inRight⟩ := mem_elim_member_iff.mp inRight
          exact disjoint_violations steps inLeft inRight
      have items : (itemViolations items? path value).Nodup := by
        cases items? with
        | none => exact List.nodup_nil
        | some schema =>
            cases value with
            | array items =>
                rw [itemViolations, List.nodup_flatMap]
                refine ⟨fun _ _ => atItems schema rfl, ?_⟩
                have positions : items.zipIdx.Pairwise fun left right => left.2 ≠ right.2 := by
                  apply List.pairwise_map.mp
                  rw [List.zipIdx_map_snd]
                  exact List.nodup_range'
                refine positions.imp fun {left right} different => ?_
                exact disjoint_violations fun same => different (Segment.index.inj same)
            | _ => exact List.nodup_nil
      rw [violations]
      refine List.nodup_append'.mpr ⟨List.nodup_append'.mpr ⟨own, properties, ?_⟩, items, ?_⟩
      · intro entry inOwn inProperties
        obtain ⟨same, -⟩ := broken_iff.mp inOwn
        obtain ⟨property, -, member, -, listed⟩ := mem_propertyViolations_iff.mp inProperties
        rw [same] at listed
        exact not_mem_of_step listed
      · intro entry inBefore inItems
        obtain ⟨schema, -, position, item, -, listed⟩ := mem_itemViolations_iff.mp inItems
        rcases List.mem_append.mp inBefore with inOwn | inProperties
        · obtain ⟨same, -⟩ := broken_iff.mp inOwn
          rw [same] at listed
          exact not_mem_of_step listed
        · obtain ⟨property, -, member, -, inProperty⟩ :=
            mem_propertyViolations_iff.mp inProperties
          have steps : Segment.key property.1 ≠ .index position := nofun
          exact disjoint_violations steps inProperty listed
  | definition _ atTarget =>
      rw [violations]
      exact atTarget

end Schema

end WorkflowEditor
