import WorkflowEditor.Parameter.Codec
import WorkflowEditor.Workflow.Settings

/-!
# Workflows

A workflow has a title, settings and a definition: its blocks, which are kept as
they are, and its parameters.
-/

namespace WorkflowEditor

/-- The blocks and parameters of a workflow. -/
structure WorkflowDefinition where
  blocks : List Json
  parameters : List Parameter
  deriving DecidableEq, Repr

/-- A workflow. -/
structure Workflow where
  id? : Option String
  permanentId? : Option String
  title : String
  description? : Option String
  persistBrowserSession? : Option Bool
  proxyLocation? : Option ProxyLocation
  webhookCallbackUrl? : Option String
  definition : WorkflowDefinition
  deriving DecidableEq, Repr

namespace WorkflowDefinition

/-- Read a definition. -/
def decoder : Decoder WorkflowDefinition :=
  .record "struct WorkflowDefinition"
    (.field "blocks" (.list .any) .error <|
     .field "parameters" (.list Parameter.decoder) .error .done)
    fun (blocks, parameters, ()) => { blocks, parameters }

/-- A definition as JSON. -/
def toJson (definition : WorkflowDefinition) : Json :=
  .record [
    ("blocks", .array definition.blocks),
    ("parameters", .array (definition.parameters.map Parameter.toJson))]

end WorkflowDefinition

namespace Workflow

/-- The settings of a workflow; without a word about it, the browser session is
not kept. -/
def settings (workflow : Workflow) : Settings where
  persistBrowserSession := workflow.persistBrowserSession?.getD false
  proxyLocation? := workflow.proxyLocation?
  webhookCallbackUrl? := workflow.webhookCallbackUrl?

/-- The parameters of a workflow. -/
def parameters (workflow : Workflow) : List Parameter := workflow.definition.parameters

/-- The blocks of a workflow. -/
def blocks (workflow : Workflow) : List Json := workflow.definition.blocks

/-- Read a workflow. -/
def decoder : Decoder Workflow :=
  .record "struct WorkflowResource"
    (.field "workflow_id" (.option .text) (.default none) <|
     .field "workflow_permanent_id" (.option .text) (.default none) <|
     .field "title" .text .error <|
     .field "description" (.option .text) (.default none) <|
     .field "persist_browser_session" (.option .flag) (.default none) <|
     .field "proxy_location" (.option ProxyLocation.decoder) (.default none) <|
     .field "webhook_callback_url" (.option .text) (.default none) <|
     .field "workflow_definition" WorkflowDefinition.decoder .error .done)
    fun (id?, permanentId?, title, description?, persistBrowserSession?, proxyLocation?,
        webhookCallbackUrl?, definition, ()) =>
      { id?, permanentId?, title, description?, persistBrowserSession?, proxyLocation?,
        webhookCallbackUrl?, definition }

/-- A workflow as JSON, with null for what is absent. -/
def toJson (workflow : Workflow) : Json :=
  .record [
    ("workflow_id", .ofText? workflow.id?),
    ("workflow_permanent_id", .ofText? workflow.permanentId?),
    ("title", .string workflow.title),
    ("description", .ofText? workflow.description?),
    ("persist_browser_session", workflow.persistBrowserSession?.elim .null .bool),
    ("proxy_location", .ofText? (workflow.proxyLocation?.map ProxyLocation.name)),
    ("webhook_callback_url", .ofText? workflow.webhookCallbackUrl?),
    ("workflow_definition", workflow.definition.toJson)]

end Workflow

end WorkflowEditor
