import WorkflowEditor.Json.Basic

/-!
# Members of an object by name

Looking a name up finds the first member; a reader that goes through all members
meets every one.  This module relates the two: `Keyed.values` lists what all
entries with a key hold, and of distinct keys it holds what looking up finds.
The second part says which members an object has to have or may have.
-/

namespace WorkflowEditor

namespace Keyed

variable {α : Type}

/-- What the entries with the key hold, in their order. -/
def values (key : String) : List (String × α) → List α
  | [] => []
  | (first, value) :: rest => if first = key then value :: values key rest else values key rest

/-- The entries without those with the key. -/
def erase (key : String) : List (String × α) → List (String × α)
  | [] => []
  | (first, value) :: rest =>
      if first = key then erase key rest else (first, value) :: erase key rest

/-- No two entries share a key. -/
def Distinct (entries : List (String × α)) : Prop :=
  entries.Pairwise fun left right => left.1 ≠ right.1

/-- Looking up finds what the first entry with the key holds. -/
theorem find?_eq_head? (key : String) (entries : List (String × α)) :
    find? key entries = (values key entries).head? := by
  induction entries with
  | nil => rfl
  | cons head rest ih =>
      obtain ⟨first, value⟩ := head
      rw [find?_cons, values]
      split
      · rfl
      · exact ih

theorem mem_of_mem_values {key : String} {value : α} {entries : List (String × α)}
    (member : value ∈ values key entries) : (key, value) ∈ entries := by
  induction entries with
  | nil => contradiction
  | cons head rest ih =>
      obtain ⟨first, found⟩ := head
      rw [values] at member
      split at member
      next same =>
        subst same
        rcases List.mem_cons.mp member with rfl | inRest
        · exact List.mem_cons_self
        · exact List.mem_cons_of_mem _ (ih inRest)
      next => exact List.mem_cons_of_mem _ (ih member)

theorem mem_of_find? {key : String} {value : α} {entries : List (String × α)}
    (found : find? key entries = some value) : (key, value) ∈ entries := by
  rw [find?_eq_head?] at found
  exact mem_of_mem_values (List.mem_of_head? found)

theorem find?_map_snd {β : Type} (change : α → β) (key : String) (entries : List (String × α)) :
    find? key (entries.map fun entry => (entry.1, change entry.2)) =
      (find? key entries).map change := by
  induction entries with
  | nil => rfl
  | cons head rest ih =>
      rw [List.map_cons, find?_cons, find?_cons, ih]
      split <;> rfl

/-- A key is found when an entry has it. -/
theorem exists_find?_iff {key : String} {entries : List (String × α)} :
    (∃ value, find? key entries = some value) ↔ key ∈ entries.map Prod.fst := by
  induction entries with
  | nil => simp
  | cons head rest ih =>
      obtain ⟨first, value⟩ := head
      rw [List.map_cons, List.mem_cons, ← ih, find?_cons]
      split
      next same => simp [same]
      next different => simp [Ne.symm different]

/-- Erasing a key leaves the entries with other keys. -/
@[simp] theorem values_erase {erased key : String} (different : erased ≠ key)
    (entries : List (String × α)) : values key (erase erased entries) = values key entries := by
  induction entries with
  | nil => rfl
  | cons head rest ih =>
      obtain ⟨first, value⟩ := head
      rw [erase]
      split
      next same =>
        subst same
        rw [values, if_neg different, ih]
      next => rw [values, values, ih]

/-- Of distinct keys at most one entry has the key: the one that is found. -/
theorem Distinct.values_eq {entries : List (String × α)} (distinct : Distinct entries)
    (key : String) : values key entries = (find? key entries).toList := by
  induction entries with
  | nil => rfl
  | cons head rest ih =>
      obtain ⟨first, value⟩ := head
      have ⟨apart, distinctRest⟩ := List.pairwise_cons.mp distinct
      rw [values, find?_cons]
      split
      next same =>
        have nothing : values key rest = [] := by
          refine List.eq_nil_iff_forall_not_mem.mpr fun other member => ?_
          exact apart _ (mem_of_mem_values member) same
        rw [nothing]
        rfl
      next => exact ih distinctRest

/-- Of distinct keys every entry is found by its key. -/
theorem Distinct.find?_eq_some_iff {entries : List (String × α)} (distinct : Distinct entries)
    {key : String} {value : α} :
    find? key entries = some value ↔ (key, value) ∈ entries := by
  refine ⟨mem_of_find?, fun member => ?_⟩
  induction entries with
  | nil => contradiction
  | cons head rest ih =>
      obtain ⟨first, held⟩ := head
      have ⟨apart, distinctRest⟩ := List.pairwise_cons.mp distinct
      rw [find?_cons]
      rcases List.mem_cons.mp member with same | inRest
      · cases same
        rw [if_pos rfl]
      · rw [if_neg (apart _ inRest), ih distinctRest inRest]

/-- Of several entries with one key the last is kept. -/
theorem find?_ofList_eq_getLast? (key : String) (entries : List (String × α)) :
    find? key (ofList entries) = (values key entries).getLast? := by
  suffices step : ∀ sorted : List (String × α),
      find? key (entries.foldl (fun done entry => insert entry.1 entry.2 done) sorted) =
        (values key entries).getLast?.or (find? key sorted) by
    rw [ofList, step, find?_nil, Option.or_none]
  induction entries with
  | nil =>
      intro sorted
      rfl
  | cons head rest ih =>
      intro sorted
      obtain ⟨first, value⟩ := head
      rw [List.foldl_cons, ih, find?_insert, values]
      split
      next => rw [List.getLast?_cons, Option.or_some, Option.some_or]
      next => rfl

/-- Putting entries with distinct keys in order does not change what is found. -/
theorem Distinct.find?_ofList {entries : List (String × α)} (distinct : Distinct entries)
    (key : String) : find? key (ofList entries) = find? key entries := by
  rw [find?_ofList_eq_getLast?, distinct.values_eq]
  cases find? key entries <;> rfl

/-- Increasing keys are distinct. -/
theorem Sorted.distinct {entries : List (String × α)} (sorted : Sorted entries) :
    Distinct entries :=
  sorted.imp String.ne_of_lt

/-- Of entries with distinct keys the ordered list holds under a key what they hold. -/
theorem Distinct.values_ofList {entries : List (String × α)} (distinct : Distinct entries)
    (key : String) : values key (ofList entries) = values key entries := by
  rw [(sorted_ofList entries).distinct.values_eq, distinct.values_eq, distinct.find?_ofList]

/-- Entries in order are determined by what is found in them. -/
theorem Sorted.ext {left right : List (String × α)} (leftSorted : Sorted left)
    (rightSorted : Sorted right) (same : ∀ key, find? key left = find? key right) :
    left = right := by
  have members : ∀ entry, entry ∈ left ↔ entry ∈ right := by
    rintro ⟨key, value⟩
    rw [← leftSorted.distinct.find?_eq_some_iff, ← rightSorted.distinct.find?_eq_some_iff,
      same]
  have different : ∀ {entries : List (String × α)}, Sorted entries → entries.Nodup :=
    fun sorted => sorted.distinct.imp fun apart equal => apart (congrArg Prod.fst equal)
  have perm : left.Perm right :=
    (List.perm_ext_iff_of_nodup (different leftSorted) (different rightSorted)).mpr members
  refine perm.eq_of_pairwise ?_ leftSorted rightSorted
  intro earlier later _ _ before after
  exact absurd after (String.lt_asymm before)

end Keyed

namespace Json

/-! ## Kinds of values -/

/-- The value is a string. -/
def IsText (value : Json) : Prop := ∃ text, value = .string text

/-- The value is a boolean. -/
def IsFlag (value : Json) : Prop := ∃ flag, value = .bool flag

/-- The value is an object. -/
def IsObject (value : Json) : Prop := ∃ members, value = .object members

/-- Every value will do. -/
def IsAny (_ : Json) : Prop := True

/-- The value is null or of the shape. -/
def OrNull (shape : Json → Prop) (value : Json) : Prop := value = .null ∨ shape value

/-- The value is an array whose items are of the shape. -/
def IsListOf (shape : Json → Prop) (value : Json) : Prop :=
  ∃ items, value = .array items ∧ ∀ item ∈ items, shape item

theorem OrNull.imp {weak strong : Json → Prop} {value : Json} (orNull : OrNull strong value)
    (weaken : strong value → weak value) : OrNull weak value :=
  orNull.imp_right weaken

theorem IsListOf.imp {weak strong : Json → Prop} {value : Json} (list : IsListOf strong value)
    (weaken : ∀ item, strong item → weak item) : IsListOf weak value := by
  obtain ⟨items, rfl, shaped⟩ := list
  exact ⟨items, rfl, fun item member => weaken item (shaped item member)⟩

@[simp] theorem orNull_isAny : OrNull IsAny = IsAny :=
  funext fun _ => propext ⟨fun _ => trivial, fun _ => Or.inr trivial⟩

/-- Exactly one member has the name, and it is of the shape. -/
def Members.Requires (members : Members) (name : String) (shape : Json → Prop) : Prop :=
  ∃ value, Keyed.values name members = [value] ∧ shape value

/-- No member has the name, or exactly one, and that is of the shape. -/
def Members.Allows (members : Members) (name : String) (shape : Json → Prop) : Prop :=
  Keyed.values name members = [] ∨ members.Requires name shape

namespace Members

variable {members : Members} {name erased : String} {shape weak strong : Json → Prop}

theorem Requires.imp (required : members.Requires name strong)
    (weaken : ∀ value, Keyed.find? name members = some value → strong value → weak value) :
    members.Requires name weak := by
  obtain ⟨value, only, shaped⟩ := required
  have found : Keyed.find? name members = some value := by
    rw [Keyed.find?_eq_head?, only]
    rfl
  exact ⟨value, only, weaken value found shaped⟩

theorem Allows.imp (allowed : members.Allows name strong)
    (weaken : ∀ value, Keyed.find? name members = some value → strong value → weak value) :
    members.Allows name weak :=
  allowed.imp_right fun required => required.imp weaken

/-- Looking up a required member finds a value of the shape. -/
theorem Requires.find? (required : members.Requires name shape) :
    ∃ value, Keyed.find? name members = some value ∧ shape value := by
  obtain ⟨value, only, shaped⟩ := required
  rw [Keyed.find?_eq_head?, only]
  exact ⟨value, rfl, shaped⟩

theorem Requires.isSome_find? (required : members.Requires name shape) :
    (Keyed.find? name members).isSome := by
  obtain ⟨value, found, -⟩ := required.find?
  rw [found]
  rfl

theorem Requires.of_find? (required : members.Requires name shape) {value : Json}
    (found : Keyed.find? name members = some value) : shape value := by
  obtain ⟨only, foundOnly, shaped⟩ := required.find?
  rw [foundOnly] at found
  cases found
  exact shaped

/-- Looking up an allowed member finds nothing but values of the shape. -/
theorem Allows.of_find? (allowed : members.Allows name shape) {value : Json}
    (found : Keyed.find? name members = some value) : shape value := by
  rcases allowed with nothing | required
  · rw [Keyed.find?_eq_head?, nothing] at found
    contradiction
  · exact required.of_find? found

@[simp] theorem requires_erase_iff (different : erased ≠ name) :
    Requires (Keyed.erase erased members) name shape ↔ members.Requires name shape := by
  rw [Requires, Requires, Keyed.values_erase different]

@[simp] theorem allows_erase_iff (different : erased ≠ name) :
    Allows (Keyed.erase erased members) name shape ↔ members.Allows name shape := by
  rw [Allows, Allows, Keyed.values_erase different, requires_erase_iff different]

end Members

end Json

end WorkflowEditor
