import Mathlib.Data.List.Forall2
import WorkflowEditor.Decode.Decoder
import WorkflowEditor.Proofs.Json.Members

/-!
# What decoders accept

For every way to build a decoder without fields, this module says which trees it
decodes and to what.  `Decoder.Admits` forgets the result: the tree decodes to
something.  Records and unions follow in the next module.
-/

namespace WorkflowEditor

namespace Decoder

open Json (IsText IsFlag IsAny IsListOf OrNull)

variable {α β : Type} {origin : Origin} {tree : Json}

/-- A sequence of steps succeeds when each of them does. -/
theorem bind_eq_ok_iff {ε : Type} {action : Except ε α} {next : α → Except ε β} {value : β} :
    action >>= next = .ok value ↔ ∃ found, action = .ok found ∧ next found = .ok value := by
  cases action with
  | error error => simp [bind, Except.bind]
  | ok found => simp [bind, Except.bind]

/-- The tree decodes. -/
def Admits (decoder : Decoder α) (origin : Origin) (tree : Json) : Prop :=
  ∃ value, decoder.ofTree origin tree = .ok value

/-! ## Scalars -/

theorem text_eq_ok_iff {value : String} :
    text.ofTree origin tree = .ok value ↔ tree = .string value := by
  cases tree <;> simp [text]

@[simp] theorem admits_text : text.Admits origin = IsText := by
  funext tree
  simp only [Admits, text_eq_ok_iff, IsText]

theorem flag_eq_ok_iff {value : Bool} :
    flag.ofTree origin tree = .ok value ↔ tree = .bool value := by
  cases tree <;> simp [flag]

@[simp] theorem admits_flag : flag.Admits origin = IsFlag := by
  funext tree
  simp only [Admits, flag_eq_ok_iff, IsFlag]

/-- Content that was collected for a union may write the unit as an empty
object. -/
theorem admits_unit_iff :
    unit.Admits origin tree ↔ tree = .null ∨ origin = .buffer ∧ tree = .object [] := by
  cases tree with
  | null => simp [Admits, unit]
  | object members =>
      cases members <;> cases origin <;> simp [Admits, unit]
  | _ => simp [Admits, unit]

@[simp] theorem admits_any : any.Admits origin = IsAny := by
  funext tree
  cases origin <;> simp [Admits, any, IsAny]

/-! ## Results, options and lists -/

theorem map_eq_ok_iff {change : α → β} {decoder : Decoder α} {value : β} :
    (map change decoder).ofTree origin tree = .ok value ↔
      ∃ found, decoder.ofTree origin tree = .ok found ∧ change found = value := by
  change (decoder.ofTree origin tree).map change = .ok value ↔ _
  cases decoder.ofTree origin tree <;> simp [Except.map]

@[simp] theorem admits_map {change : α → β} {decoder : Decoder α} :
    (map change decoder).Admits origin = decoder.Admits origin := by
  funext tree
  simp only [Admits, map_eq_ok_iff, eq_iff_iff]
  constructor
  · intro mapped
    rcases mapped with ⟨_, found, decoded, -⟩
    exact ⟨found, decoded⟩
  · intro admitted
    rcases admitted with ⟨found, decoded⟩
    exact ⟨_, found, decoded, rfl⟩

theorem option_eq_ok_iff {decoder : Decoder α} {value : Option α} :
    (option decoder).ofTree origin tree = .ok value ↔
      (tree = .null ∧ value = none) ∨
      (tree ≠ .null ∧ ∃ found, decoder.ofTree origin tree = .ok found ∧ value = some found) := by
  by_cases absent : tree = .null
  · subst absent
    simp [option, eq_comm]
  · have present : (option decoder).ofTree origin tree =
        (decoder.ofTree origin tree).map some := by
      cases tree <;> first | rfl | contradiction
    rw [present]
    cases decoder.ofTree origin tree <;> simp [Except.map, absent, eq_comm]

@[simp] theorem admits_option {decoder : Decoder α} :
    (option decoder).Admits origin = OrNull (decoder.Admits origin) := by
  funext tree
  simp only [Admits, option_eq_ok_iff, OrNull, eq_iff_iff]
  constructor
  · intro admitted
    rcases admitted with ⟨_, ⟨absent, -⟩ | ⟨-, found, decoded, -⟩⟩
    · exact Or.inl absent
    · exact Or.inr ⟨found, decoded⟩
  · intro orNull
    rcases orNull with absent | ⟨found, decoded⟩
    · exact ⟨none, Or.inl ⟨absent, rfl⟩⟩
    · by_cases absent : tree = .null
      · exact ⟨none, Or.inl ⟨absent, rfl⟩⟩
      · exact ⟨some found, Or.inr ⟨absent, found, decoded, rfl⟩⟩

theorem listOfTrees_eq_ok_iff {decoder : Decoder α} {items : List Json} {values : List α} :
    listOfTrees decoder origin items = .ok values ↔
      List.Forall₂ (fun item value => decoder.ofTree origin item = .ok value) items values := by
  induction items generalizing values with
  | nil => cases values <;> simp [listOfTrees]
  | cons item rest ih =>
      simp only [listOfTrees, bind_eq_ok_iff, ih, List.forall₂_cons_left_iff, pure, Except.pure,
        Except.ok.injEq]
      constructor
      · intro steps
        rcases steps with ⟨first, decoded, others, decodedRest, rfl⟩
        exact ⟨first, others, decoded, decodedRest, rfl⟩
      · intro related
        rcases related with ⟨first, others, decoded, decodedRest, rfl⟩
        exact ⟨first, decoded, others, decodedRest, rfl⟩

theorem list_eq_ok_iff {decoder : Decoder α} {values : List α} :
    (list decoder).ofTree origin tree = .ok values ↔
      ∃ items, tree = .array items ∧
        List.Forall₂ (fun item value => decoder.ofTree origin item = .ok value) items values := by
  cases tree <;> simp [list, listOfTrees_eq_ok_iff]

/-- Values can be chosen for all items when there is one for each. -/
theorem exists_forall₂_iff {relation : β → α → Prop} {items : List β} :
    (∃ values, List.Forall₂ relation items values) ↔
      ∀ item ∈ items, ∃ value, relation item value := by
  induction items with
  | nil => simp
  | cons item rest ih =>
      rw [List.forall_mem_cons, ← ih]
      constructor
      · intro chosen
        rcases chosen with ⟨_, first | ⟨related, others⟩⟩
        exact ⟨⟨_, related⟩, _, others⟩
      · intro each
        rcases each with ⟨⟨value, related⟩, values, others⟩
        exact ⟨value :: values, .cons related others⟩

@[simp] theorem admits_list {decoder : Decoder α} :
    (list decoder).Admits origin = IsListOf (decoder.Admits origin) := by
  funext tree
  simp only [Admits, list_eq_ok_iff, IsListOf, eq_iff_iff]
  rw [exists_comm]
  refine exists_congr fun items => ?_
  rw [exists_and_left, exists_forall₂_iff]

/-! ## Variants -/

theorem variantOfName_eq_ok_iff {variants : List (String × β)} {name : String} {variant : β} :
    variantOfName variants name = .ok variant ↔ Keyed.find? name variants = some variant := by
  rw [variantOfName]
  cases Keyed.find? name variants <;> simp

/-- The constant that a tree names, or that it writes as an object with one
member. -/
theorem constants_eq_ok_iff {names : List (String × α)} {value : α} :
    (constants names).ofTree origin tree = .ok value ↔
      ∃ name, Keyed.find? name names = some value ∧
        (tree = .string name ∨
          ∃ content, tree = .object [(name, content)] ∧ unit.Admits origin content) := by
  have lookup : ∀ name variant,
      variantOfName (names.map fun entry => (entry.1, Variant.constant entry.2)) name =
        .ok variant ↔ ∃ value, Keyed.find? name names = some value ∧ .constant value = variant := by
    intro name variant
    rw [variantOfName_eq_ok_iff, Keyed.find?_map_snd, Option.map_eq_some_iff]
  cases tree with
  | string name =>
      simp only [constants, enumeration, bind_eq_ok_iff, lookup]
      constructor
      · intro read
        rcases read with ⟨_, ⟨found, named, rfl⟩, same⟩
        cases same
        exact ⟨name, named, Or.inl rfl⟩
      · intro written
        rcases written with ⟨other, named, same | ⟨content, same, -⟩⟩
        · cases same
          exact ⟨_, ⟨value, named, rfl⟩, rfl⟩
        · contradiction
  | object members =>
      rcases members with _ | ⟨⟨name, content⟩, _ | ⟨second, others⟩⟩
      · simp [constants, enumeration]
      · simp only [constants, enumeration, bind_eq_ok_iff, lookup]
        constructor
        · intro read
          rcases read with ⟨_, ⟨found, named, rfl⟩, decoded⟩
          obtain ⟨nothing, isUnit, same⟩ := bind_eq_ok_iff.mp decoded
          cases same
          exact ⟨name, named, Or.inr ⟨content, rfl, nothing, isUnit⟩⟩
        · intro written
          rcases written with ⟨other, named, same | ⟨_, same, nothing, isUnit⟩⟩
          · contradiction
          · cases same
            exact ⟨_, ⟨value, named, rfl⟩, bind_eq_ok_iff.mpr ⟨nothing, isUnit, rfl⟩⟩
      · simp [constants, enumeration]
  | _ => simp [constants, enumeration]

theorem admits_constants_iff {names : List (String × α)} :
    (constants names).Admits origin tree ↔
      ∃ name ∈ names.map Prod.fst, tree = .string name ∨
        ∃ content, tree = .object [(name, content)] ∧ unit.Admits origin content := by
  simp only [Admits, constants_eq_ok_iff]
  rw [exists_comm]
  refine exists_congr fun name => ?_
  rw [exists_and_right, Keyed.exists_find?_iff]

end Decoder

end WorkflowEditor
