import WorkflowEditor.FieldPath.Basic

/-!
# The order of paths

Paths are compared step by step, and a path comes before its continuations.  Of
two steps a key comes before an index; keys are compared by their characters and
indices by number.
-/

namespace WorkflowEditor

/-- The order of steps. -/
def Segment.compare : Segment → Segment → Ordering
  | .key left, .key right => Ord.compare left right
  | .key _, .index _ => .lt
  | .index _, .key _ => .gt
  | .index left, .index right => Ord.compare left right

/-- The order of paths. -/
def FieldPath.compare (left right : FieldPath) : Ordering :=
  List.compareLex Segment.compare left.segments right.segments

namespace FieldPath

/-- The paths in order; equal ones stay where they are. -/
def sort (paths : List FieldPath) : List FieldPath :=
  paths.mergeSort fun left right => (left.compare right).isLE

end FieldPath

end WorkflowEditor
