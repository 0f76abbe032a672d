import Mathlib.Data.List.Pairwise
import WorkflowEditor.Issue.Basic

/-!
# The order of issues is a total preorder

The comparison of issues is assembled from comparisons of names, numbers and
paths.  This module shows that it is transitive and oriented, and that it takes
two issues for equal exactly when they agree in the five compared fields.  From
that, `Issue.sort_eq_of_perm` determines the sorted form of a list: any ordered
arrangement in which issues that compare equal are equal.
-/

namespace WorkflowEditor

/-! ## Steps and paths -/

instance : Std.TransCmp Segment.compare where
  eq_swap {left right} := by
    cases left <;> cases right <;>
      first | exact Std.OrientedOrd.eq_swap | rfl
  isLE_trans {first second third} firstLe secondLe := by
    cases first <;> cases second <;> cases third <;>
      first | exact Std.TransOrd.isLE_trans firstLe secondLe | contradiction | rfl

instance : Std.LawfulEqCmp Segment.compare where
  compare_self {step} := by
    cases step <;> exact Std.ReflOrd.compare_self
  eq_of_compare {left right} equal := by
    cases left <;> cases right <;>
      first | exact congrArg _ (Std.LawfulEqOrd.eq_of_compare equal) | contradiction

namespace FieldPath

instance : Std.TransCmp FieldPath.compare where
  eq_swap {left right} := by
    change List.compareLex Segment.compare left.segments right.segments =
      (List.compareLex Segment.compare right.segments left.segments).swap
    exact Std.OrientedCmp.eq_swap
  isLE_trans {first second third} firstLe secondLe := by
    change (List.compareLex Segment.compare first.segments third.segments).isLE
    exact Std.TransCmp.isLE_trans firstLe secondLe

instance : Std.LawfulEqCmp FieldPath.compare where
  compare_self {path} := by
    change List.compareLex Segment.compare path.segments path.segments = .eq
    exact Std.ReflCmp.compare_self
  eq_of_compare {left right} equal := by
    cases left
    cases right
    exact congrArg FieldPath.mk (Std.LawfulEqCmp.eq_of_compare equal)

end FieldPath

/-- Two steps behind a common beginning decide as they do without it. -/
theorem Segment.compareLex_append (start left right : List Segment) :
    List.compareLex Segment.compare (start ++ left) (start ++ right) =
      List.compareLex Segment.compare left right := by
  induction start with
  | nil => rfl
  | cons step rest ih =>
      have same : step.compare step = .eq := Std.ReflCmp.compare_self
      rw [List.cons_append, List.cons_append, List.compareLex_cons_cons, same,
        Ordering.eq_then, ih]

/-! ## Issues -/

theorem Severity.rank_injective {left right : Severity} (equal : left.rank = right.rank) :
    left = right := by
  cases left <;> cases right <;> first | rfl | contradiction

namespace Issue

instance : Std.TransCmp fun left right : Issue => left.path.compare right.path where
  eq_swap {_ _} := Std.OrientedCmp.eq_swap
  isLE_trans {_ _ _} firstLe secondLe := Std.TransCmp.isLE_trans firstLe secondLe

instance : Std.TransCmp Issue.compare :=
  inferInstanceAs <| Std.TransCmp (compareLex _ _)

/-- Issues compare equal exactly when they agree in the five compared fields. -/
theorem compare_eq_eq_iff {left right : Issue} :
    left.compare right = .eq ↔
      left.severity = right.severity ∧ left.kind = right.kind ∧ left.path = right.path ∧
        left.message = right.message ∧ left.parameterKey? = right.parameterKey? := by
  simp only [Issue.compare, compareLex_eq_eq, compareOn, Std.LawfulEqCmp.compare_eq_iff_eq]
  exact and_congr_left' ⟨Severity.rank_injective, congrArg Severity.rank⟩

/-- Issues that compare equal are equal if they also refer and relate to the
same. -/
theorem eq_of_compare_eq {left right : Issue} (equal : left.compare right = .eq)
    (reference : left.reference? = right.reference?) (related : left.related? = right.related?) :
    left = right := by
  obtain ⟨severity, kind, path, message, parameterKey⟩ := compare_eq_eq_iff.mp equal
  cases left
  cases right
  cases severity
  cases kind
  cases path
  cases message
  cases parameterKey
  cases reference
  cases related
  rfl

/-- Issues of one severity and kind are ordered by their paths. -/
theorem compare_eq_lt_of_path {left right : Issue} (severity : left.severity = right.severity)
    (kind : left.kind = right.kind) (path : left.path.compare right.path = .lt) :
    left.compare right = .lt := by
  simp [Issue.compare, compareLex, compareOn, severity, kind, path]

/-- Issues of one severity are ordered by their kinds first. -/
theorem compare_eq_lt_of_kind {left right : Issue} (severity : left.severity = right.severity)
    (kind : Ord.compare left.kind right.kind = .lt) : left.compare right = .lt := by
  simp [Issue.compare, compareLex, compareOn, severity, kind]

/-- A sorted list is ordered. -/
theorem pairwise_sort (issues : List Issue) :
    (sort issues).Pairwise fun left right => (left.compare right).isLE :=
  List.pairwise_mergeSort
    (fun _ _ _ => Std.TransCmp.isLE_trans)
    (fun left right => by
      have swapped : right.compare left = (left.compare right).swap :=
        Std.OrientedCmp.eq_swap
      rw [swapped]
      cases left.compare right <;> rfl)
    issues

/-- The sorted form of a list is any ordered arrangement of its issues in which
those that compare equal are equal. -/
theorem sort_eq_of_perm {issues expected : List Issue} (perm : issues.Perm expected)
    (ordered : expected.Pairwise fun left right => (left.compare right).isLE)
    (same : ∀ left ∈ expected, ∀ right ∈ expected, left.compare right = .eq → left = right) :
    sort issues = expected := by
  have sortPerm : (sort issues).Perm expected := (sort_perm issues).trans perm
  refine sortPerm.eq_of_pairwise ?_ (pairwise_sort issues) ordered
  intro left right leftMem rightMem forth back
  exact same left (sortPerm.mem_iff.mp leftMem) right rightMem
    (Std.OrientedCmp.isLE_antisymm forth back)

/-- The sorted form of a list is its strictly increasing arrangement, if it has
one. -/
theorem sort_eq_of_increasing {issues expected : List Issue} (perm : issues.Perm expected)
    (increasing : expected.Pairwise fun left right => left.compare right = .lt) :
    sort issues = expected := by
  have apart : expected.Pairwise fun left right => left.compare right ≠ .eq := by
    refine increasing.imp fun before => ?_
    simp [before]
  refine sort_eq_of_perm perm (increasing.imp fun before => by simp [before]) ?_
  intro left leftMem right rightMem equal
  have symmetric : Std.Symm fun left right : Issue => left.compare right ≠ .eq :=
    { symm := fun _ _ different same => different (Std.OrientedCmp.eq_symm same) }
  by_contra different
  exact apart.forall leftMem rightMem different equal

/-- Only the empty list is sorted to the empty list. -/
@[simp] theorem sort_eq_nil_iff {issues : List Issue} : sort issues = [] ↔ issues = [] := by
  constructor
  · intro empty
    have same := sort_perm issues
    rw [empty] at same
    exact same.nil_eq.symm
  · intro empty
    rw [empty]
    exact (sort_perm []).eq_nil

/-- Sorting a sorted list changes nothing. -/
@[simp] theorem sort_sort (issues : List Issue) : sort (sort issues) = sort issues :=
  List.mergeSort_of_pairwise (pairwise_sort issues)

end Issue

end WorkflowEditor
