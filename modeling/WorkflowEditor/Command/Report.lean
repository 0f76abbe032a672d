import WorkflowEditor.Config
import WorkflowEditor.Editor.Header
import WorkflowEditor.Editor.State
import WorkflowEditor.Json.Printer

/-!
# Reports

The text and JSON forms of what the commands find.  A text report has a line for
each parameter and each issue.
-/

namespace WorkflowEditor

/-- The form of a report. -/
inductive ReportFormat where
  | text
  | json
  deriving DecidableEq, Repr, Inhabited

namespace Report

/-- Lines one under the other. -/
def ofLines (lines : List String) : String := "\n".intercalate lines

/-- The details of a parameter's own kind. -/
def parameterDetail : EditorParameter → String
  | .workflow _ dataType (some value) _ =>
      "dataType=" ++ dataType.name ++ " default=" ++ value.compact
  | .workflow _ dataType none _ => "dataType=" ++ dataType.name
  | .context _ sourceParameterKey _ => "source=" ++ sourceParameterKey
  | .secret _ collectionId identityKey identityFields _ =>
      "collection=" ++ collectionId ++ " identityKey=" ++ identityKey ++
        " identityFields=" ++ ",".intercalate identityFields
  | .creditCardData _ collectionId itemId _ => "collection=" ++ collectionId ++ " item=" ++ itemId
  | .credential _ collectionId? urlParameterKey _ =>
      "collection=" ++ collectionId?.getD "-" ++ " urlParameterKey=" ++ urlParameterKey

/-- The line of a parameter. -/
def parameterLine (parameter : EditorParameter) : String :=
  "- " ++ parameter.key ++ " [" ++ parameter.kind.name ++ "] " ++ parameterDetail parameter ++
    parameter.description?.elim "" fun description => " # " ++ description

/-- A line for each parameter. -/
def parametersText (parameters : List EditorParameter) : String :=
  ofLines (parameters.map parameterLine)

/-- The parameters as a JSON array, their members in the order of declaration. -/
def parametersJson (parameters : List EditorParameter) : String :=
  (Json.array (parameters.map fun parameter => .object parameter.members)).pretty

/-- The parameters in the form asked for. -/
def parameters (format : ReportFormat) (parameters : List EditorParameter) : String :=
  match format with
  | .text => parametersText parameters
  | .json => parametersJson parameters

/-- A line for each issue. -/
def issues (issues : List Issue) : String :=
  ofLines (issues.map fun issue => "  " ++ issue.display)

/-- The lines of the header. -/
def headerLines (header : EditorHeader) : List String :=
  ["save: " ++ (if header.saveEnabled then "enabled" else "disabled (global workflow)"),
   "run: " ++ header.runRoute]

/-- The line of the settings. -/
def settingsLine (settings : Settings) : String :=
  "settings: persist_browser_session=" ++ toString settings.persistBrowserSession ++
    " proxy_location=" ++ (settings.proxyLocation?.map ProxyLocation.name).getD "-" ++
    " webhook_callback_url=" ++ settings.webhookCallbackUrl?.getD "-"

/-- The editor's state as text. -/
def editorText (state : EditorState) (header? : Option EditorHeader) : String :=
  ofLines <|
    ["title: " ++ state.title,
     settingsLine state.settings,
     "blocks: " ++ toString state.blocks.length] ++
    header?.elim [] headerLines ++
    ["parameters: " ++ toString state.parameters.length] ++
    state.parameters.map fun parameter => "  " ++ parameterLine parameter

/-- The editor's state as JSON. -/
def editorJson (state : EditorState) (header? : Option EditorHeader) : String :=
  (Json.record [
    ("editor", state.toJson),
    ("header", header?.elim .null EditorHeader.toJson)]).pretty

/-- The editor's state in the form asked for. -/
def editor (format : ReportFormat) (state : EditorState) (header? : Option EditorHeader) :
    String :=
  match format with
  | .text => editorText state header?
  | .json => editorJson state header?

/-- A workflow that passed every check, in the form asked for. -/
def valid (format : ReportFormat) (workflow : Workflow) (issues : List Issue) : String :=
  match format with
  | .text =>
      "ok: `" ++ workflow.title ++ "` (" ++ toString workflow.parameters.length ++
        " parameters, " ++ toString workflow.blocks.length ++ " blocks)"
  | .json =>
      (Json.record [
        ("valid", .bool true),
        ("title", .string workflow.title),
        ("parameters", .ofNat workflow.parameters.length),
        ("blocks", .ofNat workflow.blocks.length),
        ("issues", .array (issues.map Issue.toJson))]).pretty

/-- A value, or the word for a missing one. -/
def orUnset (value? : Option String) : String := value?.getD "<unset>"

/-- The lines of a configuration. -/
def configLines (config : EditorConfig) : List String :=
  ["api_base_url: " ++ orUnset config.apiBaseUrl?,
   "environment: " ++ orUnset config.environment?,
   "api_credential: " ++ orUnset config.apiCredential?,
   "artifact_api_base_url: " ++ orUnset config.artifactApiBaseUrl?,
   "api_path_prefix: " ++ Text.quoted config.apiPathPrefix,
   "global_workflow_ids: [" ++ ", ".intercalate config.globalWorkflowIds ++ "]"]

/-- The configuration, with its credential masked, in the form asked for. -/
def config (format : ReportFormat) (config : EditorConfig) (found : List Issue) : String :=
  match format with
  | .text =>
      ofLines <|
        configLines config.masked ++
        if found.isEmpty then [] else ["warnings:", issues found]
  | .json =>
      (Json.record [
        ("config", config.masked.toJson),
        ("issues", .array (found.map Issue.toJson))]).pretty

end Report

end WorkflowEditor
