import Mathlib.Data.List.Pairwise
import WorkflowEditor.Parameter.Check
import WorkflowEditor.Proofs.Issue.Order

/-!
# Issues about parameters are ordered by index

The place of an issue about a parameter begins with the index of the parameter,
and indices are compared as numbers.  So errors of one kind that go through the
parameters by index are in order, whatever each of them says.
-/

namespace WorkflowEditor

/-- The issue is an error of the kind at a place inside the parameter at the
index. -/
structure Issue.Concerns (issue : Issue) (kind : String) (index : Nat) : Prop where
  severity_eq : issue.severity = .error
  kind_eq : issue.kind = kind
  path_eq : ∃ steps, issue.path = ⟨(Parameter.path index).segments ++ steps⟩

namespace Parameter

/-- Inside one parameter places are compared by the steps behind it. -/
theorem compare_path_append (index : Nat) (left right : List Segment) :
    FieldPath.compare ⟨(path index).segments ++ left⟩ ⟨(path index).segments ++ right⟩ =
      List.compareLex Segment.compare left right :=
  Segment.compareLex_append _ _ _

/-- Places inside different parameters are compared by the indices. -/
theorem compare_path_of_lt {first second : Nat} (before : first < second)
    (left right : List Segment) :
    FieldPath.compare ⟨(path first).segments ++ left⟩ ⟨(path second).segments ++ right⟩ = .lt := by
  have indices : Segment.compare (.index first) (.index second) = .lt :=
    Nat.compare_eq_lt.mpr before
  change List.compareLex Segment.compare
    ([.key "workflow_definition", .key "parameters"] ++ .index first :: left)
    ([.key "workflow_definition", .key "parameters"] ++ .index second :: right) = .lt
  rw [Segment.compareLex_append, List.compareLex_cons_cons, indices, Ordering.lt_then]

end Parameter

namespace Issue

/-- Of two errors of one kind the one about the earlier parameter comes first. -/
theorem Concerns.compare_eq_lt {left right : Issue} {kind : String} {first second : Nat}
    (aboutFirst : left.Concerns kind first) (aboutSecond : right.Concerns kind second)
    (before : first < second) : left.compare right = .lt := by
  obtain ⟨leftSteps, leftPath⟩ := aboutFirst.path_eq
  obtain ⟨rightSteps, rightPath⟩ := aboutSecond.path_eq
  apply compare_eq_lt_of_path
  · rw [aboutFirst.severity_eq, aboutSecond.severity_eq]
  · rw [aboutFirst.kind_eq, aboutSecond.kind_eq]
  · rw [leftPath, rightPath]
    exact Parameter.compare_path_of_lt before leftSteps rightSteps

/-- A list that goes through the parameters by index, and is in order inside each
of them, is in order. -/
theorem pairwise_flatMap_zipIdx {α : Type} (kind : String) (items : List α)
    (report : α × Nat → List Issue)
    (concerns : ∀ entry, ∀ issue ∈ report entry, issue.Concerns kind entry.2)
    (inside : ∀ entry, (report entry).Pairwise fun left right => left.compare right = .lt) :
    (items.zipIdx.flatMap report).Pairwise fun left right => left.compare right = .lt := by
  refine List.pairwise_flatMap.mpr ⟨fun entry _ => inside entry, ?_⟩
  have increasing : items.zipIdx.Pairwise fun first second => first.2 < second.2 := by
    refine List.pairwise_map.mp ?_
    rw [List.zipIdx_map_snd]
    exact List.pairwise_lt_range'
  refine increasing.imp fun before => ?_
  intro left leftMem right rightMem
  exact (concerns _ left leftMem).compare_eq_lt (concerns _ right rightMem) before

end Issue

end WorkflowEditor
