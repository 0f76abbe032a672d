import WorkflowEditor.Document
import WorkflowEditor.Schema.Workflow
import WorkflowEditor.Workflow.Basic

/-!
# Workflows from documents

A document becomes a workflow in three steps.  The schema and the kinds of the
parameters are checked together, and every issue of either is reported; only a
document without such issues is decoded, and then the first error is the one
issue.
-/

namespace WorkflowEditor

namespace Workflow

/-- The parameters of a document, as far as it has the shape for them. -/
def rawParameters (document : Json) : List Json :=
  (((document.member? "workflow_definition").bind (Json.member? "parameters")).bind
    Json.items?).getD []

/-- The issue of a parameter whose kind is not known. -/
def unknownKind? (index : Nat) (parameter : Json) : Option Issue :=
  ((parameter.member? "parameter_type").bind Json.text?).bind fun tag =>
    if tag ∈ Parameter.tags then none
    else
      let issue := Issue.error "parse_error"
        ((((FieldPath.root.key "workflow_definition").key "parameters").index index).key
          "parameter_type")
        s!"unsupported parameter_type `{tag}`" "parse.unknown_parameter_type"
      some (((parameter.member? "key").bind Json.text?).elim issue issue.withParameterKey)

/-- The issues of parameters whose kinds are not known. -/
def kindIssues (document : Json) : List Issue :=
  (rawParameters document).zipIdx.filterMap fun (parameter, index) =>
    unknownKind? index parameter

/-- The issue of a document that does not decode. -/
def decodeIssue (error : DecodeError) : Issue :=
  .error "parse_error" .root
    ("typed parse failed for " ++ Schema.workflowId ++ ": " ++ error.message)
    "parse.typed_deserialize_error"

/-- The workflow in a document; `checkSchema` asks for the schema to be checked. -/
def ofJson (document : Json) (checkSchema : Bool) : Except (List Issue) Workflow :=
  let schemaIssues := if checkSchema then Schema.checkById Schema.workflowId document else []
  let issues := schemaIssues ++ kindIssues document
  if issues.isEmpty then
    (decoder.decode document).mapError fun error => [decodeIssue error]
  else .error (Issue.sort issues)

/-- The workflow in a text. -/
def ofText (text : String) (format : Document.Format) (checkSchema : Bool) :
    Except (List Issue) Workflow := do
  ofJson (← Document.parse format text) checkSchema

end Workflow

end WorkflowEditor
