import WorkflowEditor.Proofs.Json.Members

/-!
# Well-formed values are in normal form

Putting members in order changes nothing where they are in order already, so a
well-formed value is its own normal form.  What a well-formed value holds is
well-formed too.
-/

namespace WorkflowEditor

namespace Keyed

variable {α : Type}

/-- An entry whose key is greater than all others goes to the end. -/
theorem insert_eq_append {key : String} {value : α} {entries : List (String × α)}
    (greatest : ∀ entry ∈ entries, entry.1 < key) :
    insert key value entries = entries ++ [(key, value)] := by
  induction entries with
  | nil => rfl
  | cons head rest ih =>
      obtain ⟨first, old⟩ := head
      obtain ⟨before, greatestRest⟩ := List.forall_mem_cons.mp greatest
      have notBefore : ¬key < first := String.lt_asymm before
      have notSame : key ≠ first := (String.ne_of_lt before).symm
      rw [insert, if_neg notBefore, if_neg notSame, ih greatestRest, List.cons_append]

/-- Entries that are in order stay as they are. -/
theorem ofList_eq_self {entries : List (String × α)} (sorted : Sorted entries) :
    ofList entries = entries := by
  suffices step : ∀ done rest : List (String × α), Sorted (done ++ rest) →
      rest.foldl (fun sorted entry => insert entry.1 entry.2 sorted) done = done ++ rest from
    step [] entries sorted
  intro done rest
  induction rest generalizing done with
  | nil =>
      intro _
      rw [List.foldl_nil, List.append_nil]
  | cons entry rest ih =>
      intro sorted
      have greatest : ∀ earlier ∈ done, earlier.1 < entry.1 := by
        intro earlier member
        exact (List.pairwise_append.mp sorted).2.2 earlier member entry List.mem_cons_self
      have moved : done ++ entry :: rest = (done ++ [entry]) ++ rest := by
        rw [List.append_assoc, List.singleton_append]
      rw [List.foldl_cons, insert_eq_append greatest, moved]
      exact ih (done ++ [entry]) (moved ▸ sorted)

end Keyed

namespace Json

mutual

/-- A well-formed value is its own normal form. -/
theorem normalize_eq_self : (value : Json) → WellFormed value → normalize value = value
  | .null, _ | .bool _, _ | .number _, _ | .string _, _ => rfl
  | .array items, formed => by rw [normalize, normalizeItems_eq_self items formed]
  | .object members, ⟨sorted, formed⟩ => by
      rw [normalize, normalizeMembers_eq_self members formed, Keyed.ofList_eq_self sorted]

theorem normalizeItems_eq_self :
    (items : List Json) → WellFormedItems items → normalizeItems items = items
  | [], _ => rfl
  | item :: rest, ⟨formed, formedRest⟩ => by
      rw [normalizeItems, normalize_eq_self item formed, normalizeItems_eq_self rest formedRest]

theorem normalizeMembers_eq_self : (members : List (String × Json)) →
    WellFormedMembers members → normalizeMembers members = members
  | [], _ => rfl
  | (key, value) :: rest, ⟨formed, formedRest⟩ => by
      rw [normalizeMembers, normalize_eq_self value formed,
        normalizeMembers_eq_self rest formedRest]

end

/-- A value that is its own normal form is well-formed. -/
theorem wellFormed_of_normalize_eq {value : Json} (normal : normalize value = value) :
    WellFormed value := by
  rw [← normal]
  exact wellFormed_normalize value

theorem WellFormedItems.of_mem {items : List Json} (formed : WellFormedItems items)
    {item : Json} (member : item ∈ items) : WellFormed item := by
  induction items with
  | nil => contradiction
  | cons first rest ih =>
      rcases List.mem_cons.mp member with rfl | inRest
      · exact formed.1
      · exact ih formed.2 inRest

theorem WellFormedMembers.of_find? {members : Members} (formed : WellFormedMembers members)
    {name : String} {value : Json} (found : Keyed.find? name members = some value) :
    WellFormed value := by
  induction members with
  | nil => contradiction
  | cons first rest ih =>
      obtain ⟨key, held⟩ := first
      rw [Keyed.find?_cons] at found
      split at found
      · cases found
        exact formed.1
      · exact ih formed.2 found

end Json

end WorkflowEditor
