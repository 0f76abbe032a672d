import Mathlib.Data.List.Perm.Basic
import WorkflowEditor.Proofs.Parameter.Order

/-!
# One pass over the parameters

Checking goes through the parameters twice, with an index of keys in between,
and sorts what it finds.  This module states the same report without the index
and without sorting: parameter by parameter, what is wrong with its key and then
what is wrong with its source.  `Parameter.check_reports` identifies the two and
says exactly when each finding is part of the report.

The proof carries one invariant through the first pass: the index of keys knows,
for every key that is not blank, the least position at which the key has been
seen, and it knows nothing about blank keys.
-/

namespace WorkflowEditor

namespace Parameter

/-! ## The report -/

/-- The least position below the bound of a parameter with the key. -/
def earlier? (parameters : List Parameter) (bound : Nat) (wanted : String) : Option Nat :=
  (List.range bound).find? fun position => parameters[position]?.map key == some wanted

/-- What is wrong with the key of the parameter at an index. -/
def keyReport? (parameters : List Parameter) (index : Nat) (parameter : Parameter) :
    Option Issue :=
  let place : FieldPath :=
    ⟨[.key "workflow_definition", .key "parameters", .index index, .key "key"]⟩
  if Text.trim parameter.key = "" then
    some {
      kind := "parameter_error"
      severity := .error
      parameterKey? := none
      path := place
      message := "parameter key must not be empty"
      reference? := some "parameter.key.empty"
      related? := none }
  else
    (earlier? parameters index parameter.key).map fun first => {
      kind := "parameter_error"
      severity := .error
      parameterKey? := some parameter.key
      path := place
      message := s!"duplicate parameter key `{parameter.key}` (first at parameters[{first}])"
      reference? := some "parameter.key.duplicate"
      related? := none }

/-- What is wrong with the source of the parameter at an index; only context
parameters have one. -/
def sourceReport? (parameters : List Parameter) (index : Nat) : Parameter → Option Issue
  | .context parameter =>
      let place : FieldPath :=
        ⟨[.key "workflow_definition", .key "parameters", .index index, .key "source", .key "key"]⟩
      if parameter.source.key = parameter.key then
        some {
          kind := "parameter_error"
          severity := .error
          parameterKey? := some parameter.key
          path := place
          message := s!"context parameter `{parameter.key}` cannot source itself"
          reference? := some "parameter.context.self_source"
          related? := none }
      else if ∃ other ∈ parameters, Text.trim other.key ≠ "" ∧ other.key = parameter.source.key then
        none
      else
        some {
          kind := "parameter_error"
          severity := .error
          parameterKey? := some parameter.key
          path := place
          message := s!"context source `{parameter.source.key}` does not name a parameter"
          reference? := some "parameter.context.unknown_source"
          related? := none }
  | _ => none

/-- What is wrong with the parameters, in one pass: first the key and then the
source of each. -/
def report (parameters : List Parameter) : List Issue :=
  parameters.zipIdx.flatMap fun entry =>
    (keyReport? parameters entry.2 entry.1).toList ++
      (sourceReport? parameters entry.2 entry.1).toList

/-! ## The index of keys -/

/-- The index of keys describes the parameters below the bound: it gives the
least position of every key that is not blank. -/
def KeyIndex.Describes (known : KeyIndex) (parameters : List Parameter) (bound : Nat) : Prop :=
  ∀ wanted, Keyed.find? wanted known =
    if Text.isBlank wanted then none else earlier? parameters bound wanted

theorem find?_append_singleton (wanted key : String) (position : Nat) (known : KeyIndex) :
    Keyed.find? wanted (known ++ [(key, position)]) =
      (Keyed.find? wanted known).or (if key = wanted then some position else none) := by
  induction known with
  | nil => rfl
  | cons head rest ih =>
      rw [List.cons_append, Keyed.find?_cons, Keyed.find?_cons, ih]
      split <;> rfl

/-- Moving the bound over a parameter adds its key, unless the key was seen. -/
theorem earlier?_succ {parameters : List Parameter} {bound : Nat} {parameter : Parameter}
    (found : parameters[bound]? = some parameter) (wanted : String) :
    earlier? parameters (bound + 1) wanted =
      (earlier? parameters bound wanted).or
        (if parameter.key = wanted then some bound else none) := by
  simp [earlier?, List.range_succ, List.find?_append, found, List.find?_singleton]

/-- The search gives the least position. -/
theorem earlier?_eq_some_iff {parameters : List Parameter} {bound first : Nat}
    {wanted : String} :
    earlier? parameters bound wanted = some first ↔
      first < bound ∧ parameters[first]?.map key = some wanted ∧
        ∀ position < first, parameters[position]?.map key ≠ some wanted := by
  simp only [earlier?, List.find?_range_eq_some, List.mem_range, beq_iff_eq, Bool.not_eq_true',
    beq_eq_false_iff_ne]
  exact and_left_comm

/-- The whole list is searched for the key of one of its parameters. -/
theorem isSome_earlier?_length_iff (parameters : List Parameter) (wanted : String) :
    (earlier? parameters parameters.length wanted).isSome ↔
      ∃ parameter ∈ parameters, parameter.key = wanted := by
  simp only [earlier?, List.find?_isSome, List.mem_range, beq_iff_eq, Option.map_eq_some_iff]
  constructor
  · intro earlier
    rcases earlier with ⟨position, -, parameter, found, same⟩
    exact ⟨parameter, List.mem_of_getElem? found, same⟩
  · intro present
    rcases present with ⟨parameter, member, same⟩
    obtain ⟨position, found⟩ := List.mem_iff_getElem?.mp member
    have inside : position < parameters.length := (List.getElem?_eq_some_iff.mp found).1
    exact ⟨position, inside, parameter, found, same⟩

namespace KeyIndex

variable {known : KeyIndex} {parameters : List Parameter} {bound : Nat} {parameter : Parameter}

theorem describes_nil (parameters : List Parameter) : Describes [] parameters 0 := by
  intro wanted
  simp [earlier?]

/-- A blank key leaves the index of keys as it is. -/
theorem Describes.blank (described : known.Describes parameters bound)
    (found : parameters[bound]? = some parameter) (blank : Text.isBlank parameter.key = true) :
    known.Describes parameters (bound + 1) := by
  intro wanted
  rw [described wanted, earlier?_succ found]
  by_cases same : parameter.key = wanted
  · simp [← same, blank]
  · simp [same]

/-- A key that was seen leaves the index of keys as it is. -/
theorem Describes.repeated (described : known.Describes parameters bound)
    (found : parameters[bound]? = some parameter) {first : Nat}
    (seen : earlier? parameters bound parameter.key = some first) :
    known.Describes parameters (bound + 1) := by
  intro wanted
  rw [described wanted, earlier?_succ found]
  by_cases same : parameter.key = wanted
  · simp [← same, seen]
  · simp [same]

/-- A key that is new enters the index of keys with its position. -/
theorem Describes.fresh (described : known.Describes parameters bound)
    (found : parameters[bound]? = some parameter) (visible : Text.isBlank parameter.key = false) :
    Describes (known ++ [(parameter.key, bound)]) parameters (bound + 1) := by
  intro wanted
  rw [find?_append_singleton, described wanted, earlier?_succ found]
  by_cases same : parameter.key = wanted
  · simp [← same, visible]
  · simp [same]

/-- What the index of keys knows of all parameters are the keys that are not
blank. -/
theorem Describes.isNone_iff (described : known.Describes parameters parameters.length)
    (wanted : String) :
    (Keyed.find? wanted known).isNone ↔
      ¬∃ other ∈ parameters, Text.trim other.key ≠ "" ∧ other.key = wanted := by
  have search := isSome_earlier?_length_iff parameters wanted
  rw [described wanted, ← Option.not_isSome_iff_eq_none.trans Option.isNone_iff_eq_none.symm]
  refine not_congr ?_
  by_cases blank : Text.isBlank wanted = true
  · simp only [blank, ↓reduceIte, Option.isSome_none, Bool.false_eq_true, false_iff]
    intro declared
    rcases declared with ⟨other, -, visible, same⟩
    exact visible ((Text.isBlank_iff_trim_eq other.key).mp (same ▸ blank))
  · rw [if_neg blank, search]
    have visible : Text.trim wanted ≠ "" :=
      fun empty => blank ((Text.isBlank_iff_trim_eq wanted).mpr empty)
    constructor
    · intro declared
      rcases declared with ⟨other, member, same⟩
      exact ⟨other, member, same ▸ visible, same⟩
    · intro declared
      rcases declared with ⟨other, member, -, same⟩
      exact ⟨other, member, same⟩

end KeyIndex

/-! ## The two passes -/

/-- The key of a parameter is reported as one step of the first pass does. -/
theorem keyReport?_eq {known : KeyIndex} {parameters : List Parameter} {index : Nat}
    (described : known.Describes parameters index) (parameter : Parameter) :
    keyReport? parameters index parameter =
      if Text.isBlank parameter.key then some (blankKey index)
      else (Keyed.find? parameter.key known).map fun first =>
        repeatedKey index first parameter.key := by
  rw [described parameter.key]
  by_cases blank : Text.isBlank parameter.key = true
  · have empty := (Text.isBlank_iff_trim_eq parameter.key).mp blank
    rw [keyReport?, if_pos empty, if_pos blank]
    rfl
  · have visible : Text.trim parameter.key ≠ "" :=
      fun empty => blank ((Text.isBlank_iff_trim_eq parameter.key).mpr empty)
    rw [keyReport?, if_neg visible, if_neg blank, if_neg blank]
    rfl

/-- The first pass reports the keys of the parameters from a bound on and ends
with the index of all keys. -/
theorem indexKeys_spec (parameters rest : List Parameter) {bound : Nat} {known : KeyIndex}
    (suffix : parameters.drop bound = rest)
    (described : known.Describes parameters bound) :
    (indexKeys rest bound known).1 =
        ((rest.zipIdx bound).flatMap fun entry =>
          (keyReport? parameters entry.2 entry.1).toList) ∧
      (indexKeys rest bound known).2.Describes parameters (bound + rest.length) := by
  induction rest generalizing bound known with
  | nil => exact ⟨rfl, described⟩
  | cons parameter rest ih =>
      have found : parameters[bound]? = some parameter := by
        rw [← List.head?_drop, suffix, List.head?_cons]
      have next : parameters.drop (bound + 1) = rest := by
        rw [← List.tail_drop, suffix, List.tail_cons]
      rw [List.zipIdx_cons, List.flatMap_cons, keyReport?_eq described, List.length_cons,
        Nat.add_comm rest.length, ← Nat.add_assoc, indexKeys]
      by_cases blank : Text.isBlank parameter.key = true
      · have ⟨issues, final⟩ := ih next (described.blank found blank)
        simpa [blank] using And.intro issues final
      · have lookup := described parameter.key
        rw [if_neg blank] at lookup
        rw [if_neg blank, if_neg blank]
        cases seen : Keyed.find? parameter.key known with
        | some first =>
            have ⟨issues, final⟩ := ih next (described.repeated found (lookup.symm.trans seen))
            simpa using And.intro issues final
        | none =>
            exact ih next (described.fresh found (Bool.not_eq_true _ ▸ blank))

/-- The second pass reports the sources of the parameters. -/
theorem sourceIssues_eq {known : KeyIndex} {parameters : List Parameter}
    (described : known.Describes parameters parameters.length) (rest : List Parameter)
    (bound : Nat) :
    sourceIssues known rest bound =
      (rest.zipIdx bound).flatMap fun entry =>
        (sourceReport? parameters entry.2 entry.1).toList := by
  induction rest generalizing bound with
  | nil => rfl
  | cons parameter rest ih =>
      have same : sourceIssue? known bound parameter = sourceReport? parameters bound parameter := by
        cases parameter with
        | context parameter =>
            rw [sourceIssue?, sourceReport?]
            split
            · rfl
            · simp only [described.isNone_iff, ite_not]
              split <;> rfl
        | _ => rfl
      rw [sourceIssues, ih, same, List.zipIdx_cons, List.flatMap_cons]

/-! ## The order of the report -/

theorem keyReport?_concerns {parameters : List Parameter} {index : Nat} {parameter : Parameter}
    {issue : Issue} (reported : keyReport? parameters index parameter = some issue) :
    issue.Concerns "parameter_error" index ∧
      issue.path = ⟨(path index).segments ++ [.key "key"]⟩ := by
  rw [keyReport?] at reported
  split at reported
  · cases reported
    exact ⟨⟨rfl, rfl, [.key "key"], rfl⟩, rfl⟩
  · obtain ⟨first, -, rfl⟩ := Option.map_eq_some_iff.mp reported
    exact ⟨⟨rfl, rfl, [.key "key"], rfl⟩, rfl⟩

theorem sourceReport?_concerns {parameters : List Parameter} {index : Nat}
    {parameter : Parameter} {issue : Issue}
    (reported : sourceReport? parameters index parameter = some issue) :
    issue.Concerns "parameter_error" index ∧
      issue.path = ⟨(path index).segments ++ [.key "source", .key "key"]⟩ := by
  cases parameter with
  | context parameter =>
      rw [sourceReport?] at reported
      split at reported
      · cases reported
        exact ⟨⟨rfl, rfl, [.key "source", .key "key"], rfl⟩, rfl⟩
      · split at reported
        · contradiction
        · cases reported
          exact ⟨⟨rfl, rfl, [.key "source", .key "key"], rfl⟩, rfl⟩
  | _ => contradiction

/-- The report is in order, so sorting leaves it as it is. -/
theorem pairwise_report (parameters : List Parameter) :
    (report parameters).Pairwise fun left right => left.compare right = .lt := by
  apply Issue.pairwise_flatMap_zipIdx "parameter_error"
  · intro entry issue member
    rcases entry with ⟨parameter, index⟩
    simp only [List.mem_append, Option.mem_toList] at member
    cases member with
    | inl reported => exact (keyReport?_concerns reported).1
    | inr reported => exact (sourceReport?_concerns reported).1
  · intro entry
    rcases entry with ⟨parameter, index⟩
    refine List.pairwise_append.mpr ⟨?_, ?_, ?_⟩
    · cases keyReport? parameters index parameter <;> simp
    · cases sourceReport? parameters index parameter <;> simp
    · intro left leftMem right rightMem
      have ⟨aboutKey, keyPath⟩ := keyReport?_concerns (Option.mem_toList.mp leftMem)
      have ⟨aboutSource, sourcePath⟩ := sourceReport?_concerns (Option.mem_toList.mp rightMem)
      apply Issue.compare_eq_lt_of_path
      · rw [aboutKey.severity_eq, aboutSource.severity_eq]
      · rw [aboutKey.kind_eq, aboutSource.kind_eq]
      · rw [keyPath, sourcePath, compare_path_append]
        decide

/-- Checking the parameters reports what one pass over them reports. -/
theorem check_eq_report (parameters : List Parameter) :
    check parameters = report parameters := by
  have ⟨keyIssues, described⟩ :=
    indexKeys_spec parameters parameters rfl (KeyIndex.describes_nil parameters)
  rw [Nat.zero_add] at described
  rw [check]
  apply Issue.sort_eq_of_increasing _ (pairwise_report parameters)
  rw [keyIssues, sourceIssues_eq described]
  exact List.flatMap_append_perm _ _ _

/-! ## When a finding is reported -/

/-- A key finding: the key is blank, or an earlier parameter has it and the
finding names the first that does. -/
theorem keyReport?_eq_some_iff {parameters : List Parameter} {index : Nat}
    {parameter : Parameter} {issue : Issue} :
    keyReport? parameters index parameter = some issue ↔
      (Text.trim parameter.key = "" ∧ issue = blankKey index) ∨
      (Text.trim parameter.key ≠ "" ∧ ∃ first < index,
        parameters[first]?.map key = some parameter.key ∧
        (∀ position < first, parameters[position]?.map key ≠ some parameter.key) ∧
        issue = repeatedKey index first parameter.key) := by
  rw [keyReport?]
  split
  next blank =>
    simp only [blank, true_and, ne_eq, not_true_eq_false, false_and, or_false,
      Option.some.injEq]
    exact eq_comm
  next visible =>
    simp only [visible, false_and, ne_eq, not_false_eq_true, true_and, false_or,
      Option.map_eq_some_iff, earlier?_eq_some_iff]
    constructor
    · intro reported
      rcases reported with ⟨first, ⟨before, found, least⟩, rfl⟩
      exact ⟨first, before, found, least, rfl⟩
    · intro reported
      rcases reported with ⟨first, before, found, least, rfl⟩
      exact ⟨first, ⟨before, found, least⟩, rfl⟩

/-- A source finding: a context parameter names itself, or a key that no
parameter with a visible key has. -/
theorem sourceReport?_eq_some_iff {parameters : List Parameter} {index : Nat}
    {parameter : Parameter} {issue : Issue} :
    sourceReport? parameters index parameter = some issue ↔
      ∃ context, parameter = .context context ∧
        ((context.source.key = context.key ∧ issue = selfSource index context.key) ∨
         (context.source.key ≠ context.key ∧
          (∀ other ∈ parameters, Text.trim other.key ≠ "" → other.key ≠ context.source.key) ∧
          issue = unknownSource index context.key context.source.key)) := by
  cases parameter with
  | context context =>
      simp only [Parameter.context.injEq, exists_eq_left']
      rw [sourceReport?]
      split
      next itself =>
        simp only [itself, true_and, ne_eq, not_true_eq_false, false_and, or_false,
          Option.some.injEq]
        exact eq_comm
      next another =>
        split
        next known =>
          obtain ⟨other, member, visible, same⟩ := known
          simp only [reduceCtorEq, another, false_and, false_or, ne_eq, not_false_eq_true,
            true_and, false_iff, not_and]
          exact fun unknown => absurd same (unknown other member visible)
        next unknown =>
          simp only [another, false_and, false_or, ne_eq, not_false_eq_true, true_and,
            Option.some.injEq]
          constructor
          · intro same
            rcases same with rfl
            exact ⟨fun other member visible same => unknown ⟨other, member, visible, same⟩, rfl⟩
          · intro declared
            rcases declared with ⟨-, rfl⟩
            rfl
  | _ => simp [sourceReport?]

/-- Checking the parameters is one pass over them, first the key and then the
source of each.  A key is reported when it is blank, or else when an earlier
parameter has it, and then with the first that does; a source is reported when
it is the parameter's own key, or else when no parameter with a visible key has
it. -/
theorem check_reports (parameters : List Parameter) :
    check parameters = report parameters ∧
    ∀ index parameter issue,
      (keyReport? parameters index parameter = some issue ↔
        (Text.trim parameter.key = "" ∧ issue = blankKey index) ∨
        (Text.trim parameter.key ≠ "" ∧ ∃ first < index,
          parameters[first]?.map key = some parameter.key ∧
          (∀ position < first, parameters[position]?.map key ≠ some parameter.key) ∧
          issue = repeatedKey index first parameter.key)) ∧
      (sourceReport? parameters index parameter = some issue ↔
        ∃ context, parameter = .context context ∧
          ((context.source.key = context.key ∧ issue = selfSource index context.key) ∨
           (context.source.key ≠ context.key ∧
            (∀ other ∈ parameters, Text.trim other.key ≠ "" → other.key ≠ context.source.key) ∧
            issue = unknownSource index context.key context.source.key))) :=
  ⟨check_eq_report parameters, fun _ _ _ => ⟨keyReport?_eq_some_iff, sourceReport?_eq_some_iff⟩⟩

end Parameter

end WorkflowEditor
