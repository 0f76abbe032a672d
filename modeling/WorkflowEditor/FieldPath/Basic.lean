import WorkflowEditor.Json.Basic

/-!
# Paths to places in a document

A path leads from the root of a document through keys of objects and indices of
arrays.  `FieldPath.resolve?` follows a path through a value, and
`FieldPath.render` writes it for a reader: `$.parameters[0].key`.
-/

namespace WorkflowEditor

/-- One step of a path. -/
inductive Segment where
  | key (name : String)
  | index (position : Nat)
  deriving DecidableEq, Repr, Inhabited

/-- A path from the root of a document. -/
structure FieldPath where
  segments : List Segment
  deriving DecidableEq, Repr, Inhabited

/-- The spelling of a step. -/
def Segment.chars : Segment → List Char
  | .key name => '.' :: name.toList
  | .index position => '[' :: Nat.toDigits 10 position ++ [']']

/-- The value that a step leads to. -/
def Segment.resolve? : Segment → Json → Option Json
  | .key name, value => value.member? name
  | .index position, value => value.item? position

namespace FieldPath

/-- The path to the document itself. -/
def root : FieldPath := ⟨[]⟩

/-- The path to the member of that name. -/
def key (path : FieldPath) (name : String) : FieldPath := ⟨path.segments ++ [.key name]⟩

/-- The path to the item at that position. -/
def index (path : FieldPath) (position : Nat) : FieldPath := ⟨path.segments ++ [.index position]⟩

/-- Whether the path leads to the document itself. -/
def isRoot (path : FieldPath) : Bool := path.segments.isEmpty

/-- The characters of the path's text. -/
def chars (path : FieldPath) : List Char := '$' :: path.segments.flatMap Segment.chars

/-- The text of the path. -/
def render (path : FieldPath) : String := String.ofList path.chars

/-- The value that the path leads to, if the document has that place. -/
def resolve? (path : FieldPath) (document : Json) : Option Json :=
  path.segments.foldlM (fun value step => step.resolve? value) document

@[simp] theorem segments_root : root.segments = [] := rfl

@[simp] theorem segments_key (path : FieldPath) (name : String) :
    (path.key name).segments = path.segments ++ [.key name] := rfl

@[simp] theorem segments_index (path : FieldPath) (position : Nat) :
    (path.index position).segments = path.segments ++ [.index position] := rfl

@[simp] theorem resolve?_root (document : Json) : root.resolve? document = some document := rfl

@[simp] theorem resolve?_key (path : FieldPath) (name : String) (document : Json) :
    (path.key name).resolve? document = (path.resolve? document).bind (Json.member? name) := by
  simp [resolve?, List.foldlM_append, Segment.resolve?]

@[simp] theorem resolve?_index (path : FieldPath) (position : Nat) (document : Json) :
    (path.index position).resolve? document =
      (path.resolve? document).bind (Json.item? position) := by
  simp [resolve?, List.foldlM_append, Segment.resolve?]

end FieldPath

end WorkflowEditor
