import Mathlib.Data.List.Count
import WorkflowEditor.Proofs.Json.Members
import WorkflowEditor.Proofs.Parameter.Sound

/-!
# The order of parameters does not matter

Which of two equal keys is reported depends on their order, and so do the places and
messages of the findings.  What they refer to does not: `Parameter.check_reordered`
compares the references and keys of the findings on a list with those on any
permutation of it.

The argument is one of accounting.  Every parameter is accounted for once by the first
pass: its key is reported, or it is taken into the index of keys.  The index ends with
every visible key once, in some order, so what is left to report is the same; and the
second pass looks at nothing of the index but its keys.
-/

namespace WorkflowEditor

/-- What an issue refers to, apart from its place and its wording. -/
abbrev Subject := Option String × Option String

/-- The reference of an issue and the key of the parameter that it is about. -/
def Issue.subject (issue : Issue) : Subject := (issue.reference?, issue.parameterKey?)

namespace Parameter

/-! ## The first pass -/

/-- What a repeated key is reported as. -/
def repeatedSubject (key : String) : Subject := (some "parameter.key.duplicate", some key)

theorem repeatedSubject_injective : Function.Injective repeatedSubject := by
  intro left right same
  simpa [repeatedSubject] using same

/-- What the key of a parameter is reported as, unless the index of keys takes it in. -/
def keySubject (parameter : Parameter) : Subject :=
  if Text.isBlank parameter.key then (some "parameter.key.empty", none)
  else repeatedSubject parameter.key

/-- What the keys in the index would be reported as. -/
def KeyIndex.subjects (known : KeyIndex) : List Subject :=
  (known.map Prod.fst).map repeatedSubject

/-- The first pass accounts for every parameter: its key is reported or taken in. -/
theorem subjects_indexKeys (parameters : List Parameter) (index : Nat) (known : KeyIndex) :
    ((indexKeys parameters index known).1.map Issue.subject ++
      (indexKeys parameters index known).2.subjects).Perm
      (known.subjects ++ parameters.map keySubject) := by
  induction parameters generalizing index known with
  | nil => simp [indexKeys]
  | cons parameter rest ih =>
      rw [indexKeys, List.map_cons]
      split
      next blank =>
        have reported : (blankKey index).subject = keySubject parameter := by
          rw [keySubject, if_pos blank]
          rfl
        rw [List.map_cons, reported]
        exact ((ih (index + 1) known).cons _).trans List.perm_middle.symm
      next visible =>
        have owed : keySubject parameter = repeatedSubject parameter.key := if_neg visible
        split
        next first seen =>
          have reported : (repeatedKey index first parameter.key).subject =
              keySubject parameter := by
            rw [owed]
            rfl
          rw [List.map_cons, reported]
          exact ((ih (index + 1) known).cons _).trans List.perm_middle.symm
        next fresh =>
          have taken : KeyIndex.subjects (known ++ [(parameter.key, index)]) =
              known.subjects ++ [keySubject parameter] := by
            rw [owed, KeyIndex.subjects, List.map_append, List.map_append]
            rfl
          have accounted := ih (index + 1) (known ++ [(parameter.key, index)])
          rwa [taken, List.append_assoc, List.singleton_append] at accounted

theorem mem_keys_indexKeys {parameters : List Parameter} {index : Nat} {known : KeyIndex}
    {key : String} :
    key ∈ (indexKeys parameters index known).2.map Prod.fst ↔
      key ∈ known.map Prod.fst ∨
        Text.isBlank key = false ∧ key ∈ parameters.map Parameter.key := by
  induction parameters generalizing index known with
  | nil => simp [indexKeys]
  | cons parameter rest ih =>
      rw [indexKeys]
      split
      next blank =>
        rw [ih, List.map_cons, List.mem_cons]
        grind
      next visible =>
        split
        next first seen =>
          have inIndex : parameter.key ∈ known.map Prod.fst :=
            Keyed.exists_find?_iff.mp ⟨first, seen⟩
          rw [ih, List.map_cons, List.mem_cons]
          grind
        next fresh =>
          rw [ih, List.map_cons, List.mem_cons, List.map_append, List.mem_append]
          grind

theorem nodup_keys_indexKeys {parameters : List Parameter} {index : Nat} {known : KeyIndex}
    (distinct : (known.map Prod.fst).Nodup) :
    ((indexKeys parameters index known).2.map Prod.fst).Nodup := by
  induction parameters generalizing index known with
  | nil => exact distinct
  | cons parameter rest ih =>
      rw [indexKeys]
      split
      · exact ih distinct
      · split
        next => exact ih distinct
        next fresh =>
          have absent : parameter.key ∉ known.map Prod.fst := by
            intro inIndex
            obtain ⟨first, seen⟩ := Keyed.exists_find?_iff.mpr inIndex
            cases fresh.symm.trans seen
          apply ih
          rw [List.map_append, List.map_singleton]
          exact List.nodup_append_comm.mp (List.nodup_cons.mpr ⟨absent, distinct⟩)

/-- The index with the keys of all parameters. -/
def keyIndex (parameters : List Parameter) : KeyIndex := (indexKeys parameters 0 []).2

theorem mem_keys_keyIndex {parameters : List Parameter} {key : String} :
    key ∈ (keyIndex parameters).map Prod.fst ↔
      Text.isBlank key = false ∧ key ∈ parameters.map Parameter.key := by
  simp [keyIndex, mem_keys_indexKeys]

theorem nodup_keys_keyIndex (parameters : List Parameter) :
    ((keyIndex parameters).map Prod.fst).Nodup :=
  nodup_keys_indexKeys List.nodup_nil

/-- The findings of the first pass refer, together with the keys that were taken in, to
the key of each parameter. -/
theorem subjects_keyIssues (parameters : List Parameter) :
    ((indexKeys parameters 0 []).1.map Issue.subject ++ (keyIndex parameters).subjects).Perm
      (parameters.map keySubject) :=
  subjects_indexKeys parameters 0 []

/-! ## The second pass -/

/-- What the source of a parameter is reported as. -/
def sourceSubject? (known : KeyIndex) (parameter : Parameter) : Option Subject :=
  (sourceIssue? known 0 parameter).map Issue.subject

theorem map_subject_sourceIssue? (known : KeyIndex) (index : Nat) (parameter : Parameter) :
    (sourceIssue? known index parameter).map Issue.subject = sourceSubject? known parameter := by
  cases parameter with
  | context context =>
      rw [sourceSubject?, sourceIssue?, sourceIssue?]
      split
      · rfl
      · split <;> rfl
  | _ => rfl

theorem subjects_sourceIssues (known : KeyIndex) (parameters : List Parameter) (index : Nat) :
    (sourceIssues known parameters index).map Issue.subject =
      parameters.filterMap (sourceSubject? known) := by
  induction parameters generalizing index with
  | nil => rfl
  | cons parameter rest ih =>
      rw [sourceIssues, List.map_append, ih, List.filterMap_cons,
        ← map_subject_sourceIssue? known index]
      cases sourceIssue? known index parameter <;> rfl

/-- The second pass looks at nothing of the index but its keys. -/
theorem sourceSubject?_congr {known other : KeyIndex}
    (same : ∀ key, key ∈ known.map Prod.fst ↔ key ∈ other.map Prod.fst) :
    sourceSubject? known = sourceSubject? other := by
  have unknown : ∀ key, (Keyed.find? key known).isNone = (Keyed.find? key other).isNone := by
    intro key
    have found := same key
    rw [← Keyed.exists_find?_iff, ← Keyed.exists_find?_iff, ← Option.isSome_iff_exists,
      ← Option.isSome_iff_exists] at found
    rw [← Option.not_isSome, ← Option.not_isSome, Bool.eq_iff_iff.mpr found]
  funext parameter
  cases parameter with
  | context context => rw [sourceSubject?, sourceSubject?, sourceIssue?, sourceIssue?, unknown]
  | _ => rfl

theorem repeatedSubject_ne_sourceSubject? {known : KeyIndex} {parameter : Parameter}
    {key : String} : sourceSubject? known parameter ≠ some (repeatedSubject key) := by
  intro reported
  cases parameter with
  | context context =>
      rw [sourceSubject?, sourceIssue?] at reported
      split at reported
      · simp [selfSource, Issue.subject, Issue.withParameterKey, Issue.error, Issue.ofSeverity,
          repeatedSubject] at reported
      · split at reported
        · simp [unknownSource, Issue.subject, Issue.withParameterKey, Issue.error,
            Issue.ofSeverity, repeatedSubject] at reported
        · contradiction
  | _ => contradiction

/-! ## Both passes -/

theorem subjects_check (parameters : List Parameter) :
    ((check parameters).map Issue.subject).Perm
      ((indexKeys parameters 0 []).1.map Issue.subject ++
        parameters.filterMap (sourceSubject? (keyIndex parameters))) := by
  rw [← subjects_sourceIssues _ _ 0, ← List.map_append]
  exact (Issue.sort_perm _).map Issue.subject

variable {parameters others : List Parameter}

theorem perm_keys_keyIndex (reordered : others.Perm parameters) :
    ((keyIndex others).map Prod.fst).Perm ((keyIndex parameters).map Prod.fst) := by
  apply (List.perm_ext_iff_of_nodup (nodup_keys_keyIndex _) (nodup_keys_keyIndex _)).mpr
  intro key
  rw [mem_keys_keyIndex, mem_keys_keyIndex, (reordered.map Parameter.key).mem_iff]

/-- The first pass over reordered parameters refers to the same keys. -/
theorem perm_subjects_keyIssues (reordered : others.Perm parameters) :
    ((indexKeys others 0 []).1.map Issue.subject).Perm
      ((indexKeys parameters 0 []).1.map Issue.subject) := by
  have taken : (keyIndex others).subjects.Perm (keyIndex parameters).subjects :=
    (perm_keys_keyIndex reordered).map repeatedSubject
  apply (List.perm_append_right_iff (keyIndex parameters).subjects).mp
  calc List.Perm _ ((indexKeys others 0 []).1.map Issue.subject ++ (keyIndex others).subjects) :=
        taken.symm.append_left _
    List.Perm _ (others.map keySubject) := subjects_keyIssues others
    List.Perm _ (parameters.map keySubject) := reordered.map keySubject
    List.Perm _ ((indexKeys parameters 0 []).1.map Issue.subject ++
        (keyIndex parameters).subjects) := (subjects_keyIssues parameters).symm

/-- The findings on reordered parameters refer to the same. -/
theorem perm_subjects_check (reordered : others.Perm parameters) :
    ((check others).map Issue.subject).Perm ((check parameters).map Issue.subject) := by
  have sources := sourceSubject?_congr fun key => (perm_keys_keyIndex reordered).mem_iff
  calc List.Perm _ ((indexKeys others 0 []).1.map Issue.subject ++
        others.filterMap (sourceSubject? (keyIndex others))) := subjects_check others
    List.Perm _ ((indexKeys parameters 0 []).1.map Issue.subject ++
        parameters.filterMap (sourceSubject? (keyIndex parameters))) := by
      rw [sources]
      exact (perm_subjects_keyIssues reordered).append (reordered.filterMap _)
    List.Perm _ ((check parameters).map Issue.subject) := (subjects_check parameters).symm

/-! ## How often a key is reported -/

theorem count_repeatedSubject_keySubject {key : String} (visible : Text.isBlank key = false)
    (parameters : List Parameter) :
    (parameters.map keySubject).count (repeatedSubject key) =
      (parameters.map Parameter.key).count key := by
  rw [List.count, List.count, List.countP_map, List.countP_map]
  refine List.countP_congr fun parameter _ => ?_
  simp only [Function.comp_apply, beq_iff_eq, keySubject]
  split
  next blank =>
    have different : parameter.key ≠ key := by
      rintro rfl
      exact absurd (blank.symm.trans visible) (by decide)
    simp [repeatedSubject, different]
  next => exact repeatedSubject_injective.eq_iff

/-- A visible key is reported as repeated once less than it occurs. -/
theorem count_repeatedSubject_check {key : String} (visible : Text.isBlank key = false)
    (parameters : List Parameter) :
    ((check parameters).map Issue.subject).count (repeatedSubject key) =
      (parameters.map Parameter.key).count key - 1 := by
  have total := (subjects_keyIssues parameters).count_eq (repeatedSubject key)
  have taken : (keyIndex parameters).subjects.count (repeatedSubject key) =
      ((keyIndex parameters).map Prod.fst).count key :=
    List.count_map_of_injective _ _ repeatedSubject_injective _
  have sources : (parameters.filterMap (sourceSubject? (keyIndex parameters))).count
      (repeatedSubject key) = 0 := by
    apply List.count_eq_zero.mpr
    intro member
    obtain ⟨parameter, -, reported⟩ := List.mem_filterMap.mp member
    exact repeatedSubject_ne_sourceSubject? reported
  rw [List.count_append, taken, count_repeatedSubject_keySubject visible] at total
  rw [(subjects_check parameters).count_eq, List.count_append, sources]
  by_cases occurs : key ∈ parameters.map Parameter.key
  · have once : ((keyIndex parameters).map Prod.fst).count key = 1 :=
      List.count_eq_one_of_mem (nodup_keys_keyIndex parameters)
        (mem_keys_keyIndex.mpr ⟨visible, occurs⟩)
    omega
  · have never : (parameters.map Parameter.key).count key = 0 := List.count_eq_zero.mpr occurs
    omega

/-! ## The theorem -/

/-- Nothing is found in parameters exactly when nothing is found in any order of them. -/
theorem check_eq_nil_of_perm (reordered : others.Perm parameters) :
    check others = [] ↔ check parameters = [] := by
  have length := (perm_subjects_check reordered).length_eq
  rw [List.length_map, List.length_map] at length
  rw [← List.length_eq_zero_iff, length, List.length_eq_zero_iff]

/-- Reordering the parameters changes neither what the findings refer to, each as often as
before, nor whether the parameters are accepted; and a visible key is reported as repeated
once less than it occurs, wherever it does. -/
theorem check_reordered (reordered : others.Perm parameters) :
    ((check others).map Issue.subject).Perm ((check parameters).map Issue.subject) ∧
    (∀ key, Text.trim key ≠ "" →
      ((check others).map Issue.subject).count (some "parameter.key.duplicate", some key) =
        (parameters.map Parameter.key).count key - 1) ∧
    (check others = [] ↔ check parameters = []) ∧
    Issue.hasErrors (check others) = Issue.hasErrors (check parameters) := by
  have accepted := check_eq_nil_of_perm reordered
  refine ⟨perm_subjects_check reordered, ?_, accepted, ?_⟩
  · intro key visible
    have notBlank : Text.isBlank key = false :=
      Bool.eq_false_iff.mpr fun blank => visible ((Text.isBlank_iff_trim_eq key).mp blank)
    rw [← (reordered.map Parameter.key).count_eq]
    exact count_repeatedSubject_check notBlank others
  · rw [Bool.eq_iff_iff, hasErrors_check_iff, hasErrors_check_iff, ← check_eq_nil_iff,
      ← check_eq_nil_iff, accepted]

/-- An input, an output with its key, and a parameter that takes its value from them. -/
def sharedKey : List Parameter :=
  [.input { key := "url", description? := none, inputType := .string, defaultValue? := none },
   .output { key := "url", description? := none },
   .context { key := "page", description? := none, source := { key := "url" }, value? := none }]

/-- Backwards the shared key is still reported once, but at the input and not at the
output. -/
theorem check_reordered_backwards :
    sharedKey.reverse.Perm sharedKey ∧
    check sharedKey.reverse ≠ check sharedKey ∧
    ((check sharedKey.reverse).map Issue.subject).Perm ((check sharedKey).map Issue.subject) ∧
    Text.trim "url" ≠ "" ∧
    ((check sharedKey.reverse).map Issue.subject).count
      (some "parameter.key.duplicate", some "url") = 1 ∧
    Issue.hasErrors (check sharedKey.reverse) = Issue.hasErrors (check sharedKey) := by
  have reordered : sharedKey.reverse.Perm sharedKey := List.reverse_perm sharedKey
  have visible : Text.trim "url" ≠ "" := by decide
  have elsewhere : check sharedKey.reverse ≠ check sharedKey := by
    rw [check_eq_report, check_eq_report]
    decide +kernel
  obtain ⟨subjects, counted, -, errors⟩ := check_reordered reordered
  exact ⟨reordered, elsewhere, subjects, visible, counted "url" visible, errors⟩

end Parameter

end WorkflowEditor
