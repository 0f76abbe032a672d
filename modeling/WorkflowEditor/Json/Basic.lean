import WorkflowEditor.Decimal.Double

/-!
# JSON values

A JSON value keeps its integers exact and its other numbers as doubles.  The
members of an object are a list of pairs; a well-formed value lists them by
strictly increasing key, so equal documents are equal values.  `Json.record`
and `Json.normalize` build well-formed objects, and of several members with one
key they keep the last.
-/

namespace WorkflowEditor

/-- A JSON number. -/
inductive JsonNumber where
  | integer (value : Int)
  | double (value : Double)
  deriving DecidableEq, Repr, Inhabited

/-- A JSON value. -/
inductive Json where
  | null
  | bool (value : Bool)
  | number (value : JsonNumber)
  | string (value : String)
  | array (items : List Json)
  | object (members : List (String × Json))
  deriving Repr, Inhabited

/-- The members of an object. -/
abbrev Json.Members := List (String × Json)

/-! ## Keyed lists -/

namespace Keyed

variable {α : Type}

/-- The value of the first entry with the key. -/
def find? (key : String) : List (String × α) → Option α
  | [] => none
  | (first, value) :: rest => if first = key then some value else find? key rest

/-- Put an entry in its place by key, instead of one with the same key. -/
def insert (key : String) (value : α) : List (String × α) → List (String × α)
  | [] => [(key, value)]
  | (first, old) :: rest =>
      if key < first then (key, value) :: (first, old) :: rest
      else if key = first then (key, value) :: rest
      else (first, old) :: insert key value rest

/-- The entries by increasing key; of several with one key the last is kept. -/
def ofList (entries : List (String × α)) : List (String × α) :=
  entries.foldl (fun sorted entry => insert entry.1 entry.2 sorted) []

/-- Keys increase strictly. -/
def Sorted (entries : List (String × α)) : Prop :=
  entries.Pairwise fun left right => left.1 < right.1

instance (entries : List (String × α)) : Decidable (Sorted entries) :=
  inferInstanceAs (Decidable (entries.Pairwise _))

@[simp] theorem find?_nil (key : String) : find? key ([] : List (String × α)) = none := rfl

@[simp] theorem find?_cons (key first : String) (value : α) (rest : List (String × α)) :
    find? key ((first, value) :: rest) = if first = key then some value else find? key rest :=
  rfl

/-- Inserting sets the value at the key and no other. -/
theorem find?_insert (key other : String) (value : α) (entries : List (String × α)) :
    find? other (insert key value entries) =
      if key = other then some value else find? other entries := by
  induction entries with
  | nil => rfl
  | cons head tail ih =>
      obtain ⟨first, old⟩ := head
      simp only [insert]
      split
      · simp
      · split
        · rename_i same
          subst same
          simp only [find?_cons]
          split <;> simp_all
        · simp only [find?_cons, ih]
          split
          · rename_i atFirst
            subst atFirst
            simp_all
          · rfl

theorem mem_insert {key : String} {value : α} {entries : List (String × α)}
    {entry : String × α} (member : entry ∈ insert key value entries) :
    entry = (key, value) ∨ entry ∈ entries := by
  induction entries with
  | nil => simpa [insert] using member
  | cons head tail ih =>
      obtain ⟨first, old⟩ := head
      simp only [insert] at member
      split at member
      · simpa using member
      · split at member
        · rcases List.mem_cons.mp member with same | inTail
          · exact Or.inl same
          · exact Or.inr (List.mem_cons_of_mem _ inTail)
        · rcases List.mem_cons.mp member with same | inTail
          · exact Or.inr (by simp [same])
          · exact (ih inTail).imp id (List.mem_cons_of_mem _)

/-- Inserting keeps the order by key. -/
theorem Sorted.insert {key : String} {value : α} {entries : List (String × α)}
    (sorted : Sorted entries) : Sorted (Keyed.insert key value entries) := by
  induction entries with
  | nil => simp [Keyed.insert, Sorted]
  | cons head tail ih =>
      obtain ⟨first, old⟩ := head
      have ⟨below, sortedTail⟩ := List.pairwise_cons.mp sorted
      simp only [Keyed.insert]
      split
      · rename_i before
        refine List.pairwise_cons.mpr ⟨?_, sorted⟩
        intro entry member
        rcases List.mem_cons.mp member with same | inTail
        · simpa [same] using before
        · exact String.lt_trans before (below entry inTail)
      · split
        · rename_i same
          subst same
          exact List.pairwise_cons.mpr ⟨below, sortedTail⟩
        · rename_i notBefore notSame
          refine List.pairwise_cons.mpr ⟨?_, ih sortedTail⟩
          intro entry member
          rcases mem_insert member with same | inTail
          · subst same
            have : first ≤ key := String.not_lt.mp notBefore
            exact Std.lt_of_le_of_ne this fun equal => notSame equal.symm
          · exact below entry inTail

theorem sorted_foldl_insert (entries sorted : List (String × α)) (isSorted : Sorted sorted) :
    Sorted (entries.foldl (fun done entry => insert entry.1 entry.2 done) sorted) := by
  induction entries generalizing sorted with
  | nil => exact isSorted
  | cons head tail ih => exact ih _ isSorted.insert

/-- `ofList` sorts by key. -/
theorem sorted_ofList (entries : List (String × α)) : Sorted (ofList entries) :=
  sorted_foldl_insert entries [] List.Pairwise.nil

end Keyed

namespace Json

/-! ## Equality -/

mutual

/-- Decide whether two values are equal. -/
def decEq : (left right : Json) → Decidable (left = right)
  | .null, .null => .isTrue rfl
  | .bool left, .bool right =>
      if same : left = right then .isTrue (by rw [same])
      else .isFalse fun equal => same (Json.bool.inj equal)
  | .number left, .number right =>
      if same : left = right then .isTrue (by rw [same])
      else .isFalse fun equal => same (Json.number.inj equal)
  | .string left, .string right =>
      if same : left = right then .isTrue (by rw [same])
      else .isFalse fun equal => same (Json.string.inj equal)
  | .array left, .array right =>
      match decEqItems left right with
      | .isTrue same => .isTrue (by rw [same])
      | .isFalse different => .isFalse fun equal => different (Json.array.inj equal)
  | .object left, .object right =>
      match decEqMembers left right with
      | .isTrue same => .isTrue (by rw [same])
      | .isFalse different => .isFalse fun equal => different (Json.object.inj equal)
  | .null, .bool _ | .null, .number _ | .null, .string _ | .null, .array _ | .null, .object _
  | .bool _, .null | .bool _, .number _ | .bool _, .string _ | .bool _, .array _
  | .bool _, .object _ | .number _, .null | .number _, .bool _ | .number _, .string _
  | .number _, .array _ | .number _, .object _ | .string _, .null | .string _, .bool _
  | .string _, .number _ | .string _, .array _ | .string _, .object _ | .array _, .null
  | .array _, .bool _ | .array _, .number _ | .array _, .string _ | .array _, .object _
  | .object _, .null | .object _, .bool _ | .object _, .number _ | .object _, .string _
  | .object _, .array _ => .isFalse nofun

/-- Decide whether two lists of items are equal. -/
def decEqItems : (left right : List Json) → Decidable (left = right)
  | [], [] => .isTrue rfl
  | [], _ :: _ => .isFalse nofun
  | _ :: _, [] => .isFalse nofun
  | left :: lefts, right :: rights =>
      match decEq left right with
      | .isFalse different => .isFalse fun equal => different (List.cons.inj equal).1
      | .isTrue same =>
          match decEqItems lefts rights with
          | .isTrue rest => .isTrue (by rw [same, rest])
          | .isFalse different => .isFalse fun equal => different (List.cons.inj equal).2

/-- Decide whether two lists of members are equal. -/
def decEqMembers : (left right : List (String × Json)) → Decidable (left = right)
  | [], [] => .isTrue rfl
  | [], _ :: _ => .isFalse nofun
  | _ :: _, [] => .isFalse nofun
  | (leftKey, left) :: lefts, (rightKey, right) :: rights =>
      if sameKey : leftKey = rightKey then
        match decEq left right with
        | .isFalse different =>
            .isFalse fun equal => different (Prod.mk.inj (List.cons.inj equal).1).2
        | .isTrue same =>
            match decEqMembers lefts rights with
            | .isTrue rest => .isTrue (by rw [sameKey, same, rest])
            | .isFalse different => .isFalse fun equal => different (List.cons.inj equal).2
      else .isFalse fun equal => sameKey (Prod.mk.inj (List.cons.inj equal).1).1

end

instance : DecidableEq Json := decEq

/-! ## Reading -/

/-- The value of an object's member. -/
def member? (key : String) : Json → Option Json
  | .object members => Keyed.find? key members
  | _ => none

/-- The item of an array at an index. -/
def item? (index : Nat) : Json → Option Json
  | .array items => items[index]?
  | _ => none

/-- The items of an array. -/
def items? : Json → Option (List Json)
  | .array items => some items
  | _ => none

/-- The text of a string. -/
def text? : Json → Option String
  | .string text => some text
  | _ => none

@[simp] theorem member?_object (key : String) (members : Members) :
    (Json.object members).member? key = Keyed.find? key members := rfl

@[simp] theorem items?_array (items : List Json) : (Json.array items).items? = some items := rfl

@[simp] theorem text?_string (text : String) : (Json.string text).text? = some text := rfl

/-! ## Building -/

/-- The object with these members, put in order by key. -/
def record (members : Members) : Json :=
  .object (Keyed.ofList members)

/-- A natural number as a JSON number. -/
def ofNat (value : Nat) : Json := .number (.integer value)

/-- The text, or null. -/
def ofText? (text? : Option String) : Json :=
  text?.elim .null .string

mutual

/-- Put the members of every object in order by key. -/
def normalize : Json → Json
  | .array items => .array (normalizeItems items)
  | .object members => .object (Keyed.ofList (normalizeMembers members))
  | .null => .null
  | .bool value => .bool value
  | .number value => .number value
  | .string value => .string value

/-- Normalize every item. -/
def normalizeItems : List Json → List Json
  | [] => []
  | item :: rest => normalize item :: normalizeItems rest

/-- Normalize the value of every member. -/
def normalizeMembers : List (String × Json) → List (String × Json)
  | [] => []
  | (key, value) :: rest => (key, normalize value) :: normalizeMembers rest

end

/-! ## Well-formed values -/

mutual

/-- Every object lists its members by strictly increasing key. -/
def WellFormed : Json → Prop
  | .array items => WellFormedItems items
  | .object members => Keyed.Sorted members ∧ WellFormedMembers members
  | .null | .bool _ | .number _ | .string _ => True

/-- Every item is well-formed. -/
def WellFormedItems : List Json → Prop
  | [] => True
  | item :: rest => WellFormed item ∧ WellFormedItems rest

/-- The value of every member is well-formed. -/
def WellFormedMembers : List (String × Json) → Prop
  | [] => True
  | (_, value) :: rest => WellFormed value ∧ WellFormedMembers rest

end

theorem wellFormedMembers_insert {key : String} {value : Json} {members : Members}
    (valueFormed : WellFormed value) (formed : WellFormedMembers members) :
    WellFormedMembers (Keyed.insert key value members) := by
  induction members with
  | nil => exact ⟨valueFormed, formed⟩
  | cons head tail ih =>
      obtain ⟨first, old⟩ := head
      simp only [Keyed.insert]
      split
      · exact ⟨valueFormed, formed⟩
      · split
        · exact ⟨valueFormed, formed.2⟩
        · exact ⟨formed.1, ih formed.2⟩

theorem wellFormedMembers_ofList {members : Members} (formed : WellFormedMembers members) :
    WellFormedMembers (Keyed.ofList members) := by
  suffices step : ∀ sorted : Members, WellFormedMembers sorted → WellFormedMembers
      (members.foldl (fun done entry => Keyed.insert entry.1 entry.2 done) sorted) from
    step [] trivial
  induction members with
  | nil => exact fun _ done => done
  | cons head tail ih =>
      exact fun sorted done => ih formed.2 _ (wellFormedMembers_insert formed.1 done)

mutual

/-- Normal values are well-formed. -/
theorem wellFormed_normalize : (value : Json) → WellFormed (normalize value)
  | .null | .bool _ | .number _ | .string _ => trivial
  | .array items => wellFormedItems_normalizeItems items
  | .object members =>
      ⟨Keyed.sorted_ofList _, wellFormedMembers_ofList (wellFormedMembers_normalizeMembers members)⟩

theorem wellFormedItems_normalizeItems :
    (items : List Json) → WellFormedItems (normalizeItems items)
  | [] => trivial
  | item :: rest => ⟨wellFormed_normalize item, wellFormedItems_normalizeItems rest⟩

theorem wellFormedMembers_normalizeMembers :
    (members : List (String × Json)) → WellFormedMembers (normalizeMembers members)
  | [] => trivial
  | (_, value) :: rest => ⟨wellFormed_normalize value, wellFormedMembers_normalizeMembers rest⟩

end

end Json

end WorkflowEditor
