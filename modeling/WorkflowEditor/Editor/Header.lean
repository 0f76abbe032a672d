import WorkflowEditor.Json.Basic

/-!
# The header of the editor

A workflow that is shared by everyone is read-only: its header does not let it be
saved.
-/

namespace WorkflowEditor

/-- The header over a workflow. -/
structure EditorHeader where
  permanentId : String
  isGlobal : Bool
  deriving DecidableEq, Repr

namespace EditorHeader

/-- The header over the workflow with that identifier, given the identifiers of
the shared ones. -/
def ofId (permanentId : String) (globalIds : List String) : EditorHeader where
  permanentId
  isGlobal := globalIds.contains permanentId

/-- Whether the workflow can be saved. -/
def saveEnabled (header : EditorHeader) : Bool := !header.isGlobal

/-- The route under which the workflow is run. -/
def runRoute (header : EditorHeader) : String :=
  "/workflows/" ++ header.permanentId ++ "/run"

/-- The header as JSON. -/
def toJson (header : EditorHeader) : Json :=
  .record [
    ("workflowPermanentId", .string header.permanentId),
    ("isGlobalWorkflow", .bool header.isGlobal)]

@[simp] theorem isGlobal_ofId (permanentId : String) (globalIds : List String) :
    (ofId permanentId globalIds).isGlobal = true ↔ permanentId ∈ globalIds := by
  simp [ofId]

end EditorHeader

end WorkflowEditor
