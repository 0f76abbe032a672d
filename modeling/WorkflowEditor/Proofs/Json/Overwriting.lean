import Mathlib
import WorkflowEditor.Proofs.Json.Members

/-!
# Members with one name

Of several entries with one key the ordered list keeps the last
(`Keyed.find?_ofList_eq_getLast?`), so putting entries in order loses none of them
exactly when their keys are distinct (`Keyed.length_ofList_eq_iff`).
-/

namespace WorkflowEditor

namespace Keyed

variable {α : Type} {entries : List (String × α)}

theorem mem_keys_iff {key : String} : key ∈ entries.map Prod.fst ↔ values key entries ≠ [] := by
  rw [← exists_find?_iff, ← Option.isSome_iff_exists, find?_eq_head?, List.isSome_head?]

/-- The ordered list has the keys of the entries. -/
theorem mem_keys_ofList_iff {key : String} :
    key ∈ (ofList entries).map Prod.fst ↔ key ∈ entries.map Prod.fst := by
  rw [← exists_find?_iff, find?_ofList_eq_getLast?, ← Option.isSome_iff_exists,
    List.getLast?_isSome, mem_keys_iff]

theorem distinct_iff_nodup : Distinct entries ↔ (entries.map Prod.fst).Nodup :=
  (List.pairwise_map).symm

/-- No entry is lost exactly when the keys are distinct. -/
theorem length_ofList_eq_iff : (ofList entries).length = entries.length ↔ Distinct entries := by
  have sorted : ((ofList entries).map Prod.fst).Nodup :=
    distinct_iff_nodup.mp (sorted_ofList entries).distinct
  have same : ∀ key, key ∈ (ofList entries).map Prod.fst ↔ key ∈ entries.map Prod.fst :=
    fun _ => mem_keys_ofList_iff
  have count : ∀ found : List (String × α), found.length = (found.map Prod.fst).length :=
    fun _ => (List.length_map _).symm
  rw [distinct_iff_nodup, count entries, count (ofList entries)]
  constructor
  · intro length
    have within := List.subperm_of_subset sorted fun key member => (same key).mp member
    exact (within.perm_of_length_le length.ge).nodup_iff.mp sorted
  · intro distinct
    exact ((List.perm_ext_iff_of_nodup sorted distinct).mpr same).length_eq

end Keyed

end WorkflowEditor
