import WorkflowEditor.Proofs.Issue.Order

/-!
# The sorted form of issues

`Issue.Before` says which of two issues stands first, in words of strings and
numbers alone; the comparison decides it.  `Issue.Arranges` says what it means to
put issues in order without moving those of one place past each other.  There is
exactly one way to do that, and sorting finds it (`Issue.sort_stable`).
-/

namespace WorkflowEditor

/-! ## Which stands first -/

/-- A key stands before every index; keys are in the order of strings and indices
in the order of numbers. -/
inductive Segment.Before : Segment → Segment → Prop where
  | keys {left right : String} : left < right → Before (.key left) (.key right)
  | kinds {name : String} {position : Nat} : Before (.key name) (.index position)
  | indices {left right : Nat} : left < right → Before (.index left) (.index right)

/-- The first step in which two paths differ decides, and a path stands before its
continuations. -/
def FieldPath.Before (left right : FieldPath) : Prop :=
  List.Lex Segment.Before left.segments right.segments

namespace Issue

/-- The place of an issue in the order.  What the issue refers and relates to has no
part in it. -/
def place (issue : Issue) : Severity × String × FieldPath × String × Option String :=
  (issue.severity, issue.kind, issue.path, issue.message, issue.parameterKey?)

/-- Severity decides, then kind, path, message and parameter; an issue of no
parameter stands before those of one. -/
def Before (left right : Issue) : Prop :=
  left.severity.rank < right.severity.rank ∨ left.severity = right.severity ∧
    (left.kind < right.kind ∨ left.kind = right.kind ∧
      (left.path.Before right.path ∨ left.path = right.path ∧
        (left.message < right.message ∨ left.message = right.message ∧
          left.parameterKey? < right.parameterKey?)))

end Issue

/-! ## The comparison decides it -/

theorem compare_string_eq_lt_iff {left right : String} :
    Ord.compare left right = .lt ↔ left < right :=
  compareOfLessAndEq_eq_lt

theorem compare_string?_eq_lt_iff {left right : Option String} :
    Ord.compare left right = .lt ↔ left < right := by
  cases left with
  | none => cases right <;> simp [Ord.compare]
  | some left =>
      cases right with
      | none => simp [Ord.compare]
      | some right => exact compare_string_eq_lt_iff

theorem Segment.compare_eq_lt_iff {left right : Segment} :
    left.compare right = .lt ↔ left.Before right := by
  cases left with
  | key left =>
      cases right with
      | key right =>
          apply compare_string_eq_lt_iff.trans
          constructor
          · exact Before.keys
          · intro before
            cases before
            assumption
      | index position => exact iff_of_true rfl .kinds
  | index left =>
      cases right with
      | key name =>
          apply iff_of_false
          · intro equal
            contradiction
          · intro before
            cases before
      | index right =>
          apply Nat.compare_eq_lt.trans
          constructor
          · exact Before.indices
          · intro before
            cases before
            assumption

theorem FieldPath.compare_eq_lt_iff {left right : FieldPath} :
    left.compare right = .lt ↔ left.Before right := by
  cases left with
  | mk left =>
      cases right with
      | mk right =>
          change List.compareLex Segment.compare left right = .lt ↔
            List.Lex Segment.Before left right
          induction left generalizing right with
          | nil => cases right <;> simp [List.compareLex_nil_cons, List.compareLex_nil_nil]
          | cons step rest ih =>
              cases right with
              | nil => simp [List.compareLex_cons_nil]
              | cons other others =>
                  rw [List.compareLex_cons_cons, Ordering.then_eq_lt, ih, List.cons_lex_cons_iff,
                    Segment.compare_eq_lt_iff, Std.LawfulEqCmp.compare_eq_iff_eq]

namespace Issue

variable {left right issue : Issue} {issues result other : List Issue}

theorem compare_eq_lt_iff : left.compare right = .lt ↔ left.Before right := by
  have severity : left.severity.rank = right.severity.rank ↔ left.severity = right.severity :=
    ⟨Severity.rank_injective, congrArg Severity.rank⟩
  simp only [Issue.compare, Issue.Before, compareLex, compareOn, Ordering.then_eq_lt,
    Nat.compare_eq_lt, severity, compare_string_eq_lt_iff, FieldPath.compare_eq_lt_iff,
    compare_string?_eq_lt_iff, Std.LawfulEqCmp.compare_eq_iff_eq]

theorem compare_eq_gt_iff : left.compare right = .gt ↔ right.Before left := by
  rw [← compare_eq_lt_iff]
  exact Std.OrientedCmp.gt_iff_lt

theorem compare_eq_eq_iff_place : left.compare right = .eq ↔ left.place = right.place := by
  rw [compare_eq_eq_iff]
  simp only [place, Prod.mk.injEq]

theorem isLE_compare_iff : (left.compare right).isLE ↔ ¬right.Before left := by
  rw [Ordering.isLE_iff_ne_gt, compare_eq_gt_iff]

theorem isLE_compare_total (left right : Issue) :
    (left.compare right).isLE ∨ (right.compare left).isLE := by
  have swapped : right.compare left = (left.compare right).swap := Std.OrientedCmp.eq_swap
  rw [swapped]
  cases left.compare right <;> simp

/-! ## Arrangements -/

/-- The result holds the issues in order, and those of one place as they were. -/
structure Arranges (result issues : List Issue) : Prop where
  perm : result.Perm issues
  ordered : result.Pairwise fun left right => ¬right.Before left
  stable : ∀ issue : Issue,
    result.filter (fun other => other.place = issue.place) =
      issues.filter fun other => other.place = issue.place

theorem ordered_sort (issues : List Issue) :
    (sort issues).Pairwise fun left right => ¬right.Before left := by
  apply (pairwise_sort issues).imp
  intro left right ordered
  exact isLE_compare_iff.mp ordered

/-- The issues of one place keep their order when all are sorted. -/
theorem filter_sort (issues : List Issue) (issue : Issue) :
    (sort issues).filter (fun other => other.place = issue.place) =
      issues.filter fun other => other.place = issue.place := by
  -- Issues of one place are in order already, so sorting keeps them as a sublist; no other
  -- issue of the place can have come between them because sorting adds none.
  have inOrder : (issues.filter fun other => other.place = issue.place).Pairwise
      fun left right => (left.compare right).isLE := by
    apply List.pairwise_of_forall_mem_list
    intro left leftMem right rightMem
    have leftPlace := of_decide_eq_true (List.mem_filter.mp leftMem).2
    have rightPlace := of_decide_eq_true (List.mem_filter.mp rightMem).2
    have same : left.compare right = .eq :=
      compare_eq_eq_iff_place.mpr (leftPlace.trans rightPlace.symm)
    rw [same]
    rfl
  have kept : (issues.filter fun other => other.place = issue.place).Sublist (sort issues) := by
    apply List.sublist_mergeSort
    · intro first second third firstLe secondLe
      exact Std.TransCmp.isLE_trans firstLe secondLe
    · intro left right
      simpa using isLE_compare_total left right
    · exact inOrder
    · exact List.filter_sublist
  have again := kept.filter fun other => other.place = issue.place
  rw [List.filter_filter] at again
  simp only [Bool.and_self] at again
  symm
  apply again.eq_of_length
  exact ((sort_perm issues).filter _).length_eq.symm

theorem arranges_sort (issues : List Issue) : Arranges (sort issues) issues where
  perm := sort_perm issues
  ordered := ordered_sort issues
  stable := filter_sort issues

/-! ## There is only one arrangement -/

theorem mem_of_filter_place_eq
    (same : ∀ issue : Issue, result.filter (fun found => found.place = issue.place) =
      other.filter fun found => found.place = issue.place)
    (member : issue ∈ result) : issue ∈ other := by
  have kept : issue ∈ result.filter fun found => found.place = issue.place :=
    List.mem_filter.mpr ⟨member, decide_eq_true rfl⟩
  rw [same] at kept
  exact (List.mem_filter.mp kept).1

/-- The first issue of a list in order has no issue of the list before it. -/
theorem not_before_head (ordered : (left :: issues).Pairwise fun left right => ¬right.Before left)
    (member : issue ∈ left :: issues) : ¬issue.Before left := by
  cases List.mem_cons.mp member with
  | inl same =>
      subst same
      apply isLE_compare_iff.mp
      rw [compare_eq_eq_iff_place.mpr rfl]
      rfl
  | inr inRest => exact (List.pairwise_cons.mp ordered).1 issue inRest

/-- Two lists in order are equal if they hold the same issues of every place in the
same order. -/
theorem eq_of_filter_place_eq (ordered : result.Pairwise fun left right => ¬right.Before left)
    (otherOrdered : other.Pairwise fun left right => ¬right.Before left)
    (same : ∀ issue : Issue, result.filter (fun found => found.place = issue.place) =
      other.filter fun found => found.place = issue.place) :
    result = other := by
  induction result generalizing other with
  | nil =>
      cases other with
      | nil => rfl
      | cons first rest =>
          exact absurd (mem_of_filter_place_eq (fun issue => (same issue).symm)
            List.mem_cons_self) List.not_mem_nil
  | cons first rest ih =>
      cases other with
      | nil => exact absurd (mem_of_filter_place_eq same List.mem_cons_self) List.not_mem_nil
      | cons otherFirst otherRest =>
          have notAfter : ¬first.Before otherFirst :=
            not_before_head otherOrdered (mem_of_filter_place_eq same List.mem_cons_self)
          have notBefore : ¬otherFirst.Before first :=
            not_before_head ordered
              (mem_of_filter_place_eq (fun issue => (same issue).symm) List.mem_cons_self)
          have samePlace : otherFirst.place = first.place := by
            apply compare_eq_eq_iff_place.mp
            exact Std.OrientedCmp.isLE_antisymm (isLE_compare_iff.mpr notAfter)
              (isLE_compare_iff.mpr notBefore)
          have sameFirst : first = otherFirst := by
            have heads := same first
            simp only [List.filter_cons, samePlace, decide_true, if_true] at heads
            exact (List.cons.inj heads).1
          subst sameFirst
          have sameRest : rest = otherRest := by
            apply ih (List.pairwise_cons.mp ordered).2 (List.pairwise_cons.mp otherOrdered).2
            intro issue
            have both := same issue
            rw [List.filter_cons, List.filter_cons] at both
            split at both
            · exact (List.cons.inj both).2
            · exact both
          rw [sameRest]

/-- Sorting is the only arrangement of a list. -/
theorem eq_sort_iff_arranges : result = sort issues ↔ Arranges result issues := by
  constructor
  · intro sorted
    rw [sorted]
    exact arranges_sort issues
  · intro arranged
    apply eq_of_filter_place_eq arranged.ordered (ordered_sort issues)
    intro issue
    rw [arranged.stable, filter_sort]

/-! ## Consequences -/

/-- The order in which issues were found does not matter if those of one place are
equal. -/
theorem sort_eq_sort_of_perm (perm : issues.Perm other)
    (equal : ∀ left ∈ issues, ∀ right ∈ issues, left.place = right.place → left = right) :
    sort issues = sort other := by
  apply sort_eq_of_perm (perm.trans (sort_perm other).symm) (pairwise_sort other)
  intro left leftMem right rightMem same
  apply equal left ?_ right ?_ (compare_eq_eq_iff_place.mp same)
  · exact perm.mem_iff.mpr ((sort_perm other).mem_iff.mp leftMem)
  · exact perm.mem_iff.mpr ((sort_perm other).mem_iff.mp rightMem)

/-- Issues of one place that refer to different things stay in the order of finding. -/
example :
    let left := Issue.error "parse_error" .root "unreadable" "parse.json"
    let right := Issue.error "parse_error" .root "unreadable" "parse.yaml"
    sort [left, right] = [left, right] ∧ sort [right, left] = [right, left] :=
  ⟨List.mergeSort_of_pairwise (by decide +kernel), List.mergeSort_of_pairwise (by decide +kernel)⟩

/-- An error stands before everything that is no error. -/
theorem before_of_isError (error : left.severity = .error) (noError : right.severity ≠ .error) :
    left.Before right := by
  apply Or.inl
  rw [error]
  cases severity : right.severity with
  | error => exact absurd severity noError
  | warning => decide
  | info => decide

/-- There is an error among issues exactly when the first in order is one. -/
theorem hasErrors_iff_head_sort :
    hasErrors issues ↔ ∃ first, (sort issues).head? = some first ∧ first.severity = .error := by
  have found : hasErrors issues ↔ ∃ issue ∈ sort issues, issue.severity = .error := by
    simp only [hasErrors, List.any_eq_true, isError, beq_iff_eq, (sort_perm issues).mem_iff]
  rw [found]
  have ordered := ordered_sort issues
  cases sorted : sort issues with
  | nil => simp
  | cons first rest =>
      rw [sorted] at ordered
      constructor
      · intro someError
        rcases someError with ⟨issue, member, error⟩
        refine ⟨first, rfl, ?_⟩
        by_contra noError
        exact not_before_head ordered member (before_of_isError error noError)
      · intro firstError
        rcases firstError with ⟨head, same, error⟩
        cases same
        exact ⟨first, List.mem_cons_self, error⟩

/-- Issues are compared by their places alone, severity first and parameter last, in a
total preorder.  Sorting is the one way to put issues in this order that keeps those
of one place as they were.  So sorting again changes nothing, the order of finding
does not matter where issues of one place are equal, and a list has an error exactly
when its sorted form begins with one. -/
theorem sort_stable :
    (∀ left right : Issue,
      (left.compare right = .lt ↔ left.Before right) ∧
      (left.compare right = .gt ↔ right.Before left) ∧
      (left.compare right = .eq ↔ left.place = right.place)) ∧
    (∀ left right : Issue, (left.compare right).isLE ∨ (right.compare left).isLE) ∧
    (∀ first second third : Issue, (first.compare second).isLE → (second.compare third).isLE →
      (first.compare third).isLE) ∧
    (∀ issues result : List Issue, result = sort issues ↔ Arranges result issues) ∧
    (∀ issues : List Issue, sort (sort issues) = sort issues) ∧
    (∀ issues other : List Issue, issues.Perm other →
      (∀ left ∈ issues, ∀ right ∈ issues, left.place = right.place → left = right) →
      sort issues = sort other) ∧
    ∀ issues : List Issue, hasErrors issues ↔
      ∃ first, (sort issues).head? = some first ∧ first.severity = .error := by
  refine ⟨?_, isLE_compare_total, ?_, ?_, sort_sort, ?_, ?_⟩
  · intro left right
    exact ⟨compare_eq_lt_iff, compare_eq_gt_iff, compare_eq_eq_iff_place⟩
  · intro first second third firstLe secondLe
    exact Std.TransCmp.isLE_trans firstLe secondLe
  · intro issues result
    exact eq_sort_iff_arranges
  · intro issues other perm equal
    exact sort_eq_sort_of_perm perm equal
  · intro issues
    exact hasErrors_iff_head_sort

end Issue

end WorkflowEditor
