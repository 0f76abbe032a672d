import WorkflowEditor.Schema.Basic

/-!
# The schema of workflow documents

The one registered schema, `flowdeck-workflow/1`, covers the members that every
workflow and every parameter has; the members of a parameter's own kind are left
to decoding.
-/

namespace WorkflowEditor

namespace Schema

/-- The schema of a parameter. -/
def parameter : Schema :=
  .record ["key", "parameter_type"] [
    ("key", .ofType .string),
    ("parameter_type", .ofType .string),
    ("description", .nullable .string)]

/-- The schema of the blocks and parameters. -/
def workflowDefinition : Schema :=
  .record ["blocks", "parameters"] [
    ("blocks", .listOf (.ofType .object)),
    ("parameters", .listOf (.definition "parameter" parameter))]

/-- The schema of a workflow. -/
def workflow : Schema :=
  .record ["title", "workflow_definition"] [
    ("workflow_id", .nullable .string),
    ("workflow_permanent_id", .nullable .string),
    ("title", .ofType .string),
    ("description", .nullable .string),
    ("persist_browser_session", .nullable .boolean),
    ("proxy_location", .nullable .string),
    ("webhook_callback_url", .nullable .string),
    ("workflow_definition", workflowDefinition)]

/-- The identifier of the workflow schema. -/
def workflowId : String := "flowdeck-workflow/1"

/-- The document of the workflow schema. -/
def workflowDocument : SchemaDocument where
  dialect := "http://json-schema.org/draft-07/schema#"
  id := "https://flowdeck.dev/schemas/workflow/1.json"
  title := "Workflow resource"
  root := workflow
  definitions := [("parameter", parameter)]

/-- The schema document with that identifier. -/
def ofId? (id : String) : Option SchemaDocument :=
  if id = workflowId then some workflowDocument else none

/-- The issues of a value under the schema with that identifier. -/
def checkById (id : String) (value : Json) : List Issue :=
  match ofId? id with
  | some document => document.root.check value
  | none =>
      [.error "schema_error" .root ("unknown schema id: " ++ id)
        "schema_registry.unknown_schema"]

@[simp] theorem ofId?_workflowId : ofId? workflowId = some workflowDocument := by
  simp [ofId?]

@[simp] theorem checkById_workflowId (value : Json) :
    checkById workflowId value = workflow.check value := by
  simp [checkById, workflowDocument]

end Schema

end WorkflowEditor
