import WorkflowEditor.Proofs.Decode.Record
import WorkflowEditor.Proofs.Json.Normal

/-!
# Reading what was written

Two things make a value survive being written and read again.  What a decoder can
give is limited (`Decoder.Yields`), whatever tree it is given from; so a value that
was decoded is known to be one that can be written.  And a member that is written
for a field is the one that the field reads (`Decoder.Reads.written`), because
writing keeps the keys of an object distinct.
-/

namespace WorkflowEditor

namespace Decoder

open Json (Members)

variable {α β σ ρ : Type} {origin : Origin} {name : String} {decoder : Decoder α}
  {absent : Absent α}

/-! ## What decoders can give -/

/-- Every value that the decoder gives has the property. -/
def Yields (decoder : Decoder α) (origin : Origin) (holds : α → Prop) : Prop :=
  ∀ tree value, decoder.ofTree origin tree = .ok value → holds value

namespace Yields

variable {holds : α → Prop}

theorem of_forall (always : ∀ value, holds value) : decoder.Yields origin holds := by
  intro tree value decoded
  exact always value

theorem map {change : α → β} {kept : β → Prop}
    (yields : decoder.Yields origin fun value => kept (change value)) :
    (Decoder.map change decoder).Yields origin kept := by
  intro tree value decoded
  rcases map_eq_ok_iff.mp decoded with ⟨found, foundDecoded, rfl⟩
  exact yields tree found foundDecoded

theorem list (yields : decoder.Yields origin holds) :
    (Decoder.list decoder).Yields origin fun values => ∀ value ∈ values, holds value := by
  intro tree values decoded
  rcases list_eq_ok_iff.mp decoded with ⟨items, rfl, related⟩
  clear decoded
  induction related with
  | nil => simp
  | cons first _ ih =>
      simp only [List.mem_cons, forall_eq_or_imp]
      exact ⟨yields _ _ first, ih⟩

end Yields

/-- The item of an array at a position, as the source of a field. -/
def treeItem (origin : Origin) (items : List Json) {γ : Type} (position : Nat)
    (decoder : Decoder γ) : Except DecodeError (Option γ) :=
  match items[position]? with
  | some item => (decoder.ofTree origin item).map some
  | none => .ok none

theorem treeItem_eq_ok {items : List Json} {position : Nat} {value : α}
    (read : treeItem origin items position decoder = .ok (some value)) :
    ∃ item, decoder.ofTree origin item = .ok value := by
  unfold treeItem at read
  split at read
  next item found =>
    cases decoded : decoder.ofTree origin item with
    | error error =>
        rw [decoded] at read
        contradiction
    | ok other =>
        rw [decoded] at read
        cases read
        exact ⟨item, decoded⟩
  next => simp at read

/-- What the fields give has the property, whether they are read from the members of
an object or from the items of an array. -/
structure Fields.Yields (fields : Fields σ ρ) (origin : Origin) (holds : ρ → Prop) : Prop where
  members : ∀ members values, fields.Accepts origin members values → holds values
  items : ∀ (items : List Json) (fault : Nat → DecodeError) (position : Nat) (values : ρ),
    fields.ofItems (treeItem origin items) (fun {_} place => .error (fault place)) position =
      .ok values → holds values

namespace Fields.Yields

variable {others : Fields σ ρ}

/-- The field at a position is what its decoder gives or what its absence stands for. -/
theorem value_of_ofItems {items : List Json} {fault : Nat → DecodeError} {position : Nat}
    {values : α × ρ}
    (read : (Fields.field name decoder absent others).ofItems (treeItem origin items)
      (fun {_} place => .error (fault place)) position = .ok values) :
    ((∃ item, decoder.ofTree origin item = .ok values.1) ∨ absent.value? = some values.1) ∧
      others.ofItems (treeItem origin items) (fun {_} place => .error (fault place))
        (position + 1) = .ok values.2 := by
  have complete : ∀ value : α,
      (others.ofItems (treeItem origin items) (fun {_} place => .error (fault place))
        (position + 1) >>= fun rest => pure (value, rest)) = .ok values →
      value = values.1 ∧ others.ofItems (treeItem origin items)
        (fun {_} place => .error (fault place)) (position + 1) = .ok values.2 := by
    intro value completed
    rcases bind_eq_ok_iff.mp completed with ⟨rest, restRead, same⟩
    cases same
    exact ⟨rfl, restRead⟩
  rcases bind_eq_ok_iff.mp read with ⟨found, foundRead, chosen⟩
  cases found with
  | some found =>
      have ⟨same, rest⟩ := complete found chosen
      exact ⟨Or.inl (same ▸ treeItem_eq_ok foundRead), rest⟩
  | none =>
      cases absent with
      | error => contradiction
      | unnamed fallback => contradiction
      | default fallback =>
          have ⟨same, rest⟩ := complete fallback chosen
          exact ⟨Or.inr (congrArg some same), rest⟩

/-- A field gives what its decoder gives or what its absence stands for. -/
theorem field {holds : α → Prop} (yields : decoder.Yields origin holds)
    (fallback : ∀ value, absent.value? = some value → holds value) :
    (Fields.field name decoder absent others).Yields origin fun values => holds values.1 where
  members members values accepted := by
    have read := (accepts_field.mp accepted).1
    generalize Keyed.values name members = contents at read
    rcases contents with _ | ⟨content, _ | ⟨second, rest⟩⟩
    · exact fallback values.1 read
    · exact yields content values.1 read
    · contradiction
  items items fault position values read := by
    cases (value_of_ofItems read).1 with
    | inl given => exact given.elim fun item decoded => yields item values.1 decoded
    | inr absentValue => exact fallback values.1 absentValue

/-- A field in front does not change what the others give. -/
theorem skip {holds : ρ → Prop} (yields : others.Yields origin holds) :
    (Fields.field name decoder absent others).Yields origin fun values => holds values.2 where
  members _ values accepted :=
    yields.members _ values.2 (accepts_field.mp accepted).2
  items items fault position values read :=
    yields.items items fault (position + 1) values.2 (value_of_ofItems read).2

/-- A record gives what is built from its fields. -/
theorem record {fields : Fields σ ρ} {build : ρ → β} {holds : ρ → Prop} {kept : β → Prop}
    (yields : fields.Yields origin holds) (built : ∀ values, holds values → kept (build values)) :
    (Decoder.record name fields build).Yields origin kept := by
  intro tree value decoded
  cases tree with
  | object members =>
      rcases record_object_eq_ok_iff.mp decoded with ⟨values, accepted, rfl⟩
      exact built values (yields.members members values accepted)
  | array items =>
      rcases bind_eq_ok_iff.mp decoded with ⟨values, read, complete⟩
      split at complete
      · contradiction
      · cases complete
        exact built values (yields.items items _ 0 values read)
  | _ => contradiction

end Fields.Yields

/-- A tagged union gives what its variants give. -/
theorem Yields.tagged {tag : String} {variants : List (String × Decoder α)} {holds : α → Prop}
    (yields : ∀ entry ∈ variants, entry.2.Yields .buffer holds) :
    (Decoder.tagged name tag variants).Yields origin holds := by
  intro tree value decoded
  cases tree with
  | object members =>
      rcases tagged_object_eq_ok_iff.mp decoded with ⟨kind, variant, -, known, decodedVariant⟩
      exact yields (kind, variant) (Keyed.mem_of_find? known) _ value decodedVariant
  | array items =>
      cases items with
      | nil => contradiction
      | cons first others =>
          cases first with
          | string kind =>
              rcases bind_eq_ok_iff.mp decoded with ⟨variant, known, decodedVariant⟩
              have found := variantOfName_eq_ok_iff.mp known
              exact yields (kind, variant) (Keyed.mem_of_find? found) _ value decodedVariant
          | _ => contradiction
  | _ => contradiction

/-! ## Values that are read back -/

theorem option_text_ofText? (text? : Option String) :
    (option text).ofTree origin (.ofText? text?) = .ok text? := by
  cases text? <;> rfl

theorem option_flag_elim (flag? : Option Bool) :
    (option flag).ofTree origin (flag?.elim .null .bool) = .ok flag? := by
  cases flag? <;> rfl

/-- The name of a constant is read as the constant that it is found under. -/
theorem constants_string {names : List (String × α)} {value : α}
    (named : Keyed.find? name names = some value) :
    (constants names).ofTree origin (.string name) = .ok value :=
  constants_eq_ok_iff.mpr ⟨name, named, Or.inl rfl⟩

/-- A list is read back if its items are. -/
theorem list_array_map {write : α → Json} {values : List α}
    (back : ∀ value ∈ values, decoder.ofTree origin (write value) = .ok value) :
    (list decoder).ofTree origin (.array (values.map write)) = .ok values := by
  apply list_eq_ok_iff.mpr
  refine ⟨_, rfl, ?_⟩
  rw [List.forall₂_map_left_iff, List.forall₂_same]
  exact back

/-- A field reads the member that is written for it. -/
theorem Reads.written {entries : Members} {content : Json} {value : α}
    (distinct : Keyed.Distinct entries) (found : Keyed.find? name entries = some content)
    (back : decoder.ofTree origin content = .ok value) :
    Reads decoder absent origin (Keyed.values name (Keyed.ofList entries)) value := by
  rw [distinct.values_ofList, distinct.values_eq, found]
  exact back

/-- A field that may be absent reads the member that is written for what there is, and
nothing where no member is written. -/
theorem Reads.written? {entries : Members} {write : α → Json} {value? : Option α}
    (distinct : Keyed.Distinct entries)
    (found : Keyed.find? name entries = value?.map write)
    (back : ∀ value ∈ value?, (option decoder).ofTree origin (write value) = .ok (some value)) :
    Reads (option decoder) (.default none) origin
      (Keyed.values name (Keyed.ofList entries)) value? := by
  rw [distinct.values_ofList, distinct.values_eq, found]
  cases value? with
  | none => rfl
  | some value => exact back value rfl

/-- A union is read back from the members that are written for it, if the variant that
its tag names is read back from the others. -/
theorem tagged_record {tag kind : String} {variants : List (String × Decoder α)}
    {variant : Decoder α} {entries : Members} {value : α} (distinct : Keyed.Distinct entries)
    (named : Keyed.find? tag entries = some (.string kind))
    (known : Keyed.find? kind variants = some variant)
    (back : variant.ofTree .buffer (.object (Keyed.erase tag (Keyed.ofList entries))) =
      .ok value) :
    (tagged name tag variants).ofTree origin (.record entries) = .ok value := by
  apply tagged_object_eq_ok_iff.mpr
  refine ⟨kind, variant, ?_, known, back⟩
  rw [distinct.values_ofList, distinct.values_eq, named]
  rfl

end Decoder

/-! ## Values of any kind -/

/-- The value is not null and lists members in order, as decoding leaves it. -/
def Json.Settled (value : Json) : Prop := value ≠ .null ∧ value.WellFormed

/-- A value that was collected for a union is settled, if there is one. -/
theorem Decoder.yields_option_any :
    (option any).Yields .buffer fun value? => ∀ value ∈ value?, value.Settled := by
  intro tree value? decoded
  cases option_eq_ok_iff.mp decoded with
  | inl absent => simp [absent.2]
  | inr present =>
      rcases present with ⟨notNull, value, decodedValue, rfl⟩
      cases decodedValue
      intro value same
      cases same
      constructor
      · cases tree <;> simp [Json.normalize] at notNull ⊢
      · exact Json.wellFormed_normalize tree

/-- A field for a value of any kind gives a settled value, if it gives one. -/
theorem Decoder.Fields.Yields.any {σ ρ : Type} {name : String} {others : Fields σ ρ} :
    (Fields.field name (option Decoder.any) (.default none) others).Yields .buffer fun values =>
      ∀ value ∈ values.1, value.Settled := by
  apply Fields.Yields.field yields_option_any
  intro value? fallback
  cases fallback
  simp

/-- A settled value is read back as it is. -/
theorem Decoder.option_any_of_settled {value : Json} (settled : value.Settled) :
    (option any).ofTree .buffer value = .ok (some value) := by
  apply option_eq_ok_iff.mpr
  refine Or.inr ⟨settled.1, value, ?_, rfl⟩
  exact congrArg Except.ok (Json.normalize_eq_self value settled.2)

theorem Decoder.option_any_getD {value? : Option Json}
    (settled : ∀ value ∈ value?, value.Settled) :
    (option any).ofTree .buffer (value?.getD .null) = .ok value? := by
  cases value? with
  | none => rfl
  | some value => exact option_any_of_settled (settled value rfl)

end WorkflowEditor
