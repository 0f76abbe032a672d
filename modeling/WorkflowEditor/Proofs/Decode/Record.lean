import WorkflowEditor.Proofs.Decode.Value

/-!
# What records and tagged unions accept

A record is read member by member into the slots of its fields.  One field takes
the members of its name and leaves the others alone, so what a record reads can
be told field by field (`Fields.accepts_field`), whatever the order of the
members.  A tagged union reads its tag in the same way and leaves the other
members to the record of the variant.
-/

namespace WorkflowEditor

namespace Decoder

open Json (Members)

variable {α β σ ρ : Type} {origin : Origin} {members : Json.Members} {name : String}
  {decoder : Decoder α} {absent : Absent α}

/-- What a field is when no member names it. -/
def Absent.value? : Absent α → Option α
  | .error => none
  | .unnamed value => some value
  | .default value => some value

/-- A field reads a value from what the members of its name hold: from the one
that there is, or from none when the field may be absent. -/
def Reads (decoder : Decoder α) (absent : Absent α) (origin : Origin) :
    List Json → α → Prop
  | [], value => absent.value? = some value
  | [content], value => decoder.ofTree origin content = .ok value
  | _ :: _ :: _, _ => False

/-- A slot holds this after the members of its field have been read into it. -/
def Fills (decoder : Decoder α) (origin : Origin) : Option α → List Json → Option α → Prop
  | before, [], after => before = after
  | none, content :: rest, after =>
      ∃ value, decoder.ofTree origin content = .ok value ∧
        Fills decoder origin (some value) rest after
  | some _, _ :: _, _ => False

/-- A field reads what fills its empty slot or, failing that, what its absence
stands for. -/
theorem exists_fills_iff {contents : List Json} {value : α} :
    (∃ slot, Fills decoder origin none contents slot ∧ slot.or absent.value? = some value) ↔
      Reads decoder absent origin contents value := by
  rcases contents with _ | ⟨content, _ | ⟨second, others⟩⟩
  · simp [Fills, Reads]
  · simp [Fills, Reads]
  · simp [Fills, Reads]

/-- A field that has to be there is read from the member that looking up finds. -/
theorem Reads.required {value : α}
    (read : Reads decoder .error origin (Keyed.values name members) value) :
    ∃ content, Keyed.find? name members = some content ∧
      decoder.ofTree origin content = .ok value := by
  rw [Keyed.find?_eq_head?]
  generalize Keyed.values name members = contents at read ⊢
  rcases contents with _ | ⟨content, _ | ⟨second, others⟩⟩
  · exact absurd read (Option.some_ne_none value).symm
  · exact ⟨content, rfl, read⟩
  · exact absurd read id

/-- A field that may be absent is read from the member that looking up finds, or
falls back. -/
theorem Reads.default {value fallback : α}
    (read : Reads decoder (.default fallback) origin (Keyed.values name members) value) :
    (Keyed.find? name members = none ∧ fallback = value) ∨
      ∃ content, Keyed.find? name members = some content ∧
        decoder.ofTree origin content = .ok value := by
  rw [Keyed.find?_eq_head?]
  generalize Keyed.values name members = contents at read ⊢
  rcases contents with _ | ⟨content, _ | ⟨second, others⟩⟩
  · exact Or.inl ⟨rfl, Option.some.inj read⟩
  · exact Or.inr ⟨content, rfl, read⟩
  · exact absurd read id

/-! ## Fields -/

namespace Fields

/-- The fields read the values from the members of an object. -/
def Accepts (fields : Fields σ α) (origin : Origin) (members : Members) (values : α) : Prop :=
  ∃ slots, fields.storeTrees origin members fields.empty = .ok slots ∧
    fields.finish slots = .ok values

/-- The fields can be read from the members of an object. -/
def Admits (fields : Fields σ α) (origin : Origin) (members : Members) : Prop :=
  ∃ values, fields.Accepts origin members values

/-- The value of a member as the source of a field. -/
def treeSource (origin : Origin) (value : Json) : Source (Except DecodeError) where
  read decoder := decoder.ofTree origin value
  fail := .error

theorem storeTrees_cons (fields : Fields σ α) (key : String) (value : Json)
    (rest : Members) (slots : σ) :
    fields.storeTrees origin ((key, value) :: rest) slots =
      (fields.store (treeSource origin value) key slots).elim
        (fields.storeTrees origin rest slots) (· >>= fields.storeTrees origin rest) := by
  rw [storeTrees]
  split
  next stored known =>
    have taken : fields.store (treeSource origin value) key slots = some stored := known
    rw [taken]
    rfl
  next unknown =>
    have passed : fields.store (treeSource origin value) key slots = none := unknown
    rw [passed]
    rfl

theorem storeTrees_done (slots : Unit) :
    done.storeTrees origin members slots = .ok () := by
  induction members with
  | nil => rfl
  | cons member rest ih => exact ih

section OneField

variable {others : Fields σ ρ} {key : String} {value : Json} {rest : Members} {slots : σ}

/-- A field is not read twice. -/
theorem storeTrees_field_full {first : α} :
    (field name decoder absent others).storeTrees origin ((name, value) :: rest)
        (some first, slots) = .error (.duplicateField name) := by
  have refused : (field name decoder absent others).store (treeSource origin value) name
      (some first, slots) = some (.error (.duplicateField name)) := if_pos rfl
  rw [storeTrees_cons, refused]
  rfl

/-- The first member of a field's name goes into its slot. -/
theorem storeTrees_field_empty :
    (field name decoder absent others).storeTrees origin ((name, value) :: rest) (none, slots) =
      decoder.ofTree origin value >>= fun found =>
        (field name decoder absent others).storeTrees origin rest (some found, slots) := by
  have taken : (field name decoder absent others).store (treeSource origin value) name
      (none, slots) = some do return (some (← decoder.ofTree origin value), slots) := if_pos rfl
  rw [storeTrees_cons, taken]
  cases decoder.ofTree origin value <;> rfl

/-- A member of another name goes to the other fields. -/
theorem storeTrees_field_other (different : key ≠ name) {slot : Option α} :
    (field name decoder absent others).storeTrees origin ((key, value) :: rest) (slot, slots) =
      (others.store (treeSource origin value) key slots).elim
        ((field name decoder absent others).storeTrees origin rest (slot, slots))
        (· >>= fun next =>
          (field name decoder absent others).storeTrees origin rest (slot, next)) := by
  have passed : (field name decoder absent others).store (treeSource origin value) key
      (slot, slots) = (others.store (treeSource origin value) key slots).map fun step => do
        return (slot, ← step) := if_neg different
  rw [storeTrees_cons, passed]
  cases others.store (treeSource origin value) key slots with
  | none => rfl
  | some step => cases step <;> rfl

end OneField

/-- Storing takes the members of a field's name into its slot, and the others
into the slots of the other fields. -/
theorem storeTrees_field {others : Fields σ ρ} {before after : Option α} {slots stored : σ} :
    (field name decoder absent others).storeTrees origin members (before, slots) =
        .ok (after, stored) ↔
      Fills decoder origin before (Keyed.values name members) after ∧
        others.storeTrees origin (Keyed.erase name members) slots = .ok stored := by
  induction members generalizing before slots with
  | nil => simp [storeTrees, Keyed.values, Keyed.erase, Fills]
  | cons member rest ih =>
      obtain ⟨key, value⟩ := member
      rw [Keyed.values, Keyed.erase]
      split
      next same =>
        subst same
        cases before with
        | some first => simp [storeTrees_field_full, Fills]
        | none =>
            rw [storeTrees_field_empty, bind_eq_ok_iff, Fills, ← exists_and_right]
            refine exists_congr fun found => ?_
            rw [ih, and_assoc]
      next different =>
        rw [storeTrees_field_other different, storeTrees_cons]
        cases others.store (treeSource origin value) key slots with
        | none => exact ih
        | some step =>
            rw [Option.elim_some, Option.elim_some, bind_eq_ok_iff, bind_eq_ok_iff,
              ← exists_and_left]
            refine exists_congr fun next => ?_
            rw [ih, and_left_comm]

/-- A field is complete with what its slot holds or with what its absence stands
for. -/
theorem finish_field {others : Fields σ ρ} {slot : Option α} {slots : σ} {value : α} {rest : ρ} :
    (field name decoder absent others).finish (slot, slots) = .ok (value, rest) ↔
      slot.or absent.value? = some value ∧ others.finish slots = .ok rest := by
  have complete : (field name decoder absent others).finish (slot, slots) =
      (slot.or absent.value?).elim (.error (.missingField name)) fun found =>
        (others.finish slots).map fun values => (found, values) := by
    cases slot with
    | some found => rfl
    | none => cases absent <;> rfl
  rw [complete]
  cases slot.or absent.value? with
  | none => simp
  | some found =>
      cases others.finish slots <;> simp [Except.map]

/-- A field reads the members of its name, and the other fields read the
others. -/
theorem accepts_field {others : Fields σ ρ} {value : α} {rest : ρ} :
    (field name decoder absent others).Accepts origin members (value, rest) ↔
      Reads decoder absent origin (Keyed.values name members) value ∧
        others.Accepts origin (Keyed.erase name members) rest := by
  rw [← exists_fills_iff]
  constructor
  · intro accepted
    rcases accepted with ⟨⟨slot, slots⟩, stored, complete⟩
    obtain ⟨slotFilled, othersStored⟩ := storeTrees_field.mp stored
    obtain ⟨slotValue, othersComplete⟩ := finish_field.mp complete
    exact ⟨⟨slot, slotFilled, slotValue⟩, slots, othersStored, othersComplete⟩
  · intro accepted
    rcases accepted with ⟨⟨slot, slotFilled, slotValue⟩, slots, othersStored, othersComplete⟩
    exact ⟨(slot, slots), storeTrees_field.mpr ⟨slotFilled, othersStored⟩,
      finish_field.mpr ⟨slotValue, othersComplete⟩⟩

theorem accepts_done {values : Unit} : done.Accepts origin members values :=
  ⟨(), storeTrees_done (), rfl⟩

@[simp] theorem admits_done : done.Admits origin members :=
  ⟨(), accepts_done⟩

theorem admits_field_iff {others : Fields σ ρ} :
    (field name decoder absent others).Admits origin members ↔
      (∃ value, Reads decoder absent origin (Keyed.values name members) value) ∧
        others.Admits origin (Keyed.erase name members) := by
  constructor
  · intro admitted
    rcases admitted with ⟨⟨value, rest⟩, accepted⟩
    obtain ⟨read, othersAccepted⟩ := accepts_field.mp accepted
    exact ⟨⟨value, read⟩, rest, othersAccepted⟩
  · intro admitted
    rcases admitted with ⟨⟨value, read⟩, rest, othersAccepted⟩
    exact ⟨(value, rest), accepts_field.mpr ⟨read, othersAccepted⟩⟩

/-- A field that has to be there requires a member that decodes. -/
@[simp] theorem admits_required_iff {others : Fields σ ρ} :
    (field name decoder .error others).Admits origin members ↔
      members.Requires name (decoder.Admits origin) ∧
        others.Admits origin (Keyed.erase name members) := by
  rw [admits_field_iff, Members.Requires]
  refine and_congr_left fun _ => ?_
  rcases Keyed.values name members with _ | ⟨content, _ | ⟨second, rest⟩⟩
  · simp [Reads, Absent.value?]
  · simp [Reads, Decoder.Admits]
  · simp [Reads]

/-- A field that may be absent allows a member that decodes. -/
@[simp] theorem admits_default_iff {others : Fields σ ρ} {value : α} :
    (field name decoder (.default value) others).Admits origin members ↔
      members.Allows name (decoder.Admits origin) ∧
        others.Admits origin (Keyed.erase name members) := by
  rw [admits_field_iff, Members.Allows, Members.Requires]
  refine and_congr_left fun _ => ?_
  rcases Keyed.values name members with _ | ⟨content, _ | ⟨second, rest⟩⟩
  · simp [Reads, Absent.value?]
  · simp [Reads, Decoder.Admits]
  · simp [Reads]

end Fields

/-! ## Records -/

theorem record_object_eq_ok_iff {fields : Fields σ ρ} {build : ρ → α} {value : α} :
    (record name fields build).ofTree origin (.object members) = .ok value ↔
      ∃ values, fields.Accepts origin members values ∧ build values = value := by
  simp only [record, bind_eq_ok_iff, Fields.Accepts, pure, Except.pure, Except.ok.injEq]
  constructor
  · intro decoded
    rcases decoded with ⟨slots, stored, values, complete, built⟩
    exact ⟨values, ⟨slots, stored, complete⟩, built⟩
  · intro accepted
    rcases accepted with ⟨values, ⟨slots, stored, complete⟩, built⟩
    exact ⟨slots, stored, values, complete, built⟩

@[simp] theorem admits_record_object_iff {fields : Fields σ ρ} {build : ρ → α} :
    (record name fields build).Admits origin (.object members) ↔
      fields.Admits origin members := by
  simp only [Admits, record_object_eq_ok_iff, Fields.Admits]
  constructor
  · intro decoded
    rcases decoded with ⟨_, values, accepted, -⟩
    exact ⟨values, accepted⟩
  · intro accepted
    rcases accepted with ⟨values, accepted⟩
    exact ⟨build values, values, accepted, rfl⟩

/-- A record of one field may be written as the array of its one item. -/
theorem record_array_eq_ok_iff {label : String} {build : α × Unit → β} {items : List Json}
    {value : β} :
    (record label (.field name decoder .error .done) build).ofTree origin (.array items) =
        .ok value ↔
      ∃ item found, items = [item] ∧ decoder.ofTree origin item = .ok found ∧
        build (found, ()) = value := by
  rcases items with _ | ⟨item, _ | ⟨second, rest⟩⟩
  · simp [record, Fields.field, bind, Except.bind]
  · cases decoded : decoder.ofTree origin item <;>
      simp [record, Fields.field, Fields.done, bind, Except.bind, pure, Except.pure,
        Except.map, decoded]
  · cases decoded : decoder.ofTree origin item <;>
      simp [record, Fields.field, Fields.done, bind, Except.bind, pure, Except.pure,
        Except.map, decoded]

theorem admits_record_array_iff {label : String} {build : α × Unit → β} {items : List Json} :
    (record label (.field name decoder .error .done) build).Admits origin (.array items) ↔
      ∃ item, items = [item] ∧ decoder.Admits origin item := by
  simp only [Admits, record_array_eq_ok_iff]
  constructor
  · intro admitted
    rcases admitted with ⟨_, item, found, rfl, decoded, -⟩
    exact ⟨item, rfl, found, decoded⟩
  · intro admitted
    rcases admitted with ⟨item, rfl, found, decoded⟩
    exact ⟨_, item, found, rfl, decoded, rfl⟩

/-- Only objects and arrays are read as records. -/
theorem object_or_array_of_admits_record {fields : Fields σ ρ} {build : ρ → α} {tree : Json}
    (admitted : (record name fields build).Admits origin tree) :
    (∃ members, tree = .object members) ∨ ∃ items, tree = .array items := by
  obtain ⟨value, decoded⟩ := admitted
  cases tree with
  | object members => exact Or.inl ⟨members, rfl⟩
  | array items => exact Or.inr ⟨items, rfl⟩
  | _ => contradiction

/-! ## Tagged unions -/

/-- After the tag only other members may follow. -/
theorem splitTag_some_eq_ok_iff {tag : String} {variants : List (String × α)} {found : α}
    {before : Members} {result : α × Members} :
    splitTag tag variants members (some found) before = .ok result ↔
      Keyed.values tag members = [] ∧
        result = (found, before.reverse ++ Keyed.erase tag members) := by
  induction members generalizing before with
  | nil => simp [splitTag, Keyed.values, Keyed.erase, eq_comm]
  | cons member rest ih =>
      obtain ⟨key, value⟩ := member
      rw [splitTag, Keyed.values, Keyed.erase]
      split
      · simp
      · rw [ih, List.reverse_cons, List.append_assoc, List.singleton_append]

/-- The one member of the tag's name names the variant, and the other members
are kept in their order. -/
theorem splitTag_none_eq_ok_iff {tag : String} {variants : List (String × α)}
    {before : Members} {result : α × Members} :
    splitTag tag variants members none before = .ok result ↔
      ∃ kind variant, Keyed.values tag members = [.string kind] ∧
        Keyed.find? kind variants = some variant ∧
        result = (variant, before.reverse ++ Keyed.erase tag members) := by
  induction members generalizing before with
  | nil => simp [splitTag, Keyed.values]
  | cons member rest ih =>
      obtain ⟨key, value⟩ := member
      rw [Keyed.values, Keyed.erase]
      by_cases same : key = tag
      · rw [if_pos same, if_pos same]
        cases value with
        | string kind =>
            have named : splitTag tag variants ((key, .string kind) :: rest) none before =
                variantOfName variants kind >>= fun variant =>
                  splitTag tag variants rest (some variant) before := by
              rw [splitTag, if_pos same]
            simp only [named, bind_eq_ok_iff, variantOfName_eq_ok_iff, splitTag_some_eq_ok_iff]
            constructor
            · intro split
              rcases split with ⟨variant, known, nothing, rfl⟩
              exact ⟨kind, variant, by rw [nothing], known, rfl⟩
            · intro split
              rcases split with ⟨other, variant, only, known, rfl⟩
              obtain ⟨sameKind, nothing⟩ := List.cons.inj only
              cases sameKind
              exact ⟨variant, known, nothing, rfl⟩
        | _ => simp [splitTag, same]
      · have passed : splitTag tag variants ((key, value) :: rest) none before =
            splitTag tag variants rest none ((key, value) :: before) := by
          simp [splitTag, same]
        rw [if_neg same, if_neg same, passed, ih, List.reverse_cons, List.append_assoc,
          List.singleton_append]

/-- A tagged union decodes the members other than the tag as the variant that
the tag names. -/
theorem tagged_object_eq_ok_iff {tag : String} {variants : List (String × Decoder α)} {value : α} :
    (tagged name tag variants).ofTree origin (.object members) = .ok value ↔
      ∃ kind variant, Keyed.values tag members = [.string kind] ∧
        Keyed.find? kind variants = some variant ∧
        variant.ofTree .buffer (.object (Keyed.erase tag members)) = .ok value := by
  simp only [tagged, bind_eq_ok_iff, splitTag_none_eq_ok_iff]
  constructor
  · intro read
    rcases read with ⟨_, ⟨kind, variant, only, known, rfl⟩, decoded⟩
    exact ⟨kind, variant, only, known, decoded⟩
  · intro read
    rcases read with ⟨kind, variant, only, known, decoded⟩
    exact ⟨_, ⟨kind, variant, only, known, rfl⟩, decoded⟩

theorem admits_tagged_object_iff {tag : String} {variants : List (String × Decoder α)} :
    (tagged name tag variants).Admits origin (.object members) ↔
      ∃ kind variant, Keyed.values tag members = [.string kind] ∧
        Keyed.find? kind variants = some variant ∧
        variant.Admits .buffer (.object (Keyed.erase tag members)) := by
  simp only [Admits, tagged_object_eq_ok_iff]
  constructor
  · intro read
    rcases read with ⟨value, kind, variant, only, known, decoded⟩
    exact ⟨kind, variant, only, known, value, decoded⟩
  · intro read
    rcases read with ⟨kind, variant, only, known, value, decoded⟩
    exact ⟨value, kind, variant, only, known, decoded⟩

end Decoder

end WorkflowEditor
