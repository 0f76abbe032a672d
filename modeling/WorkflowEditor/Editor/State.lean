import WorkflowEditor.Editor.Parameter
import WorkflowEditor.Workflow.Basic

/-!
# The state of the editor

The editor opens with the title, settings and blocks of a workflow and with the
parameters that it shows.  Before that it waits for the workflow, and it may find
that there is none.
-/

namespace WorkflowEditor

/-- What the editor opens with. -/
structure EditorState where
  title : String
  settings : Settings
  blocks : List Json
  parameters : List EditorParameter
  deriving DecidableEq, Repr

namespace EditorState

/-- What the editor opens with for a workflow. -/
def ofWorkflow (workflow : Workflow) : EditorState where
  title := workflow.title
  settings := workflow.settings
  blocks := workflow.blocks
  parameters := EditorParameter.ofParameters workflow.parameters

/-- The state as JSON. -/
def toJson (state : EditorState) : Json :=
  .record [
    ("title", .string state.title),
    ("settings", state.settings.toJson),
    ("blocks", .array state.blocks),
    ("parameters", .array (state.parameters.map EditorParameter.toJson))]

end EditorState

/-- How far the editor has come with its workflow. -/
inductive EditorProgress where
  | loading
  | missing
  | ready (state : EditorState)
  deriving DecidableEq, Repr

namespace EditorProgress

/-- The progress of a fetch that goes on, or that has settled with a workflow or
without one. -/
def ofFetch (isLoading : Bool) (workflow? : Option Workflow) : EditorProgress :=
  if isLoading then .loading
  else
    match workflow? with
    | some workflow => .ready (.ofWorkflow workflow)
    | none => .missing

/-- What the editor opens with, once it can. -/
def ready? : EditorProgress → Option EditorState
  | .ready state => some state
  | .loading | .missing => none

@[simp] theorem ready?_ofFetch_loading (workflow? : Option Workflow) :
    (ofFetch true workflow?).ready? = none := rfl

@[simp] theorem ready?_ofFetch_settled (workflow? : Option Workflow) :
    (ofFetch false workflow?).ready? = workflow?.map EditorState.ofWorkflow := by
  cases workflow? <;> rfl

end EditorProgress

end WorkflowEditor
