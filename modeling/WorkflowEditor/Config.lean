import WorkflowEditor.Issue.Basic
import WorkflowEditor.Json.Parser
import WorkflowEditor.Log.Entry
import WorkflowEditor.Text.Blank

/-!
# Configuration from the environment

The configuration is read from six environment variables; an empty variable
counts as unset.  The shared workflows are a JSON array of identifiers; what does
not have that form is ignored, item by item inside an array.  Reports show the
configuration with the credential masked.
-/

namespace WorkflowEditor

/-- The value of each environment variable that is set. -/
abbrev Environment := String → Option String

/-- The configuration of the editor. -/
structure EditorConfig where
  apiBaseUrl? : Option String
  environment? : Option String
  apiCredential? : Option String
  artifactApiBaseUrl? : Option String
  apiPathPrefix : String
  globalWorkflowIds : List String
  deriving DecidableEq, Repr

namespace EditorConfig

/-! ## Shared workflows -/

/-- Why the variable with the shared workflows is ignored. -/
inductive GlobalIdsFault where
  | notArray
  | notJson (message : String)
  deriving DecidableEq, Repr

/-- The identifiers in a text; a blank text has none. -/
def parseGlobalIds (raw : String) : Except GlobalIdsFault (List String) :=
  if Text.isBlank raw then .ok []
  else
    match Json.parse raw with
    | .ok (.array items) => .ok (items.filterMap Json.text?)
    | .ok _ => .error .notArray
    | .error error => .error (.notJson (error.message raw))

/-- The identifiers of the shared workflows. -/
def globalIds (raw? : Option String) : List String :=
  match raw?.map parseGlobalIds with
  | some (.ok ids) => ids
  | some (.error _) | none => []

/-! ## Reading the environment -/

/-- The variable with the address of the service. -/
def apiBaseUrlName : String := "VITE_API_BASE_URL"

/-- The variable with the name of the environment. -/
def environmentName : String := "VITE_ENVIRONMENT"

/-- The variable with the credential. -/
def apiCredentialName : String := "VITE_SKYVERN_API_KEY"

/-- The variable with the address of the artifacts. -/
def artifactApiBaseUrlName : String := "VITE_ARTIFACT_API_BASE_URL"

/-- The variable with the first part of every route. -/
def apiPathPrefixName : String := "VITE_API_PATH_PREFIX"

/-- The variable with the shared workflows. -/
def globalWorkflowIdsName : String := "VITE_GLOBAL_WORKFLOW_IDS"

/-- The value of a variable that is not empty. -/
def read (environment : Environment) (name : String) : Option String :=
  (environment name).filter fun value => !value.isEmpty

/-- The configuration in an environment. -/
def ofEnvironment (environment : Environment) : EditorConfig where
  apiBaseUrl? := read environment apiBaseUrlName
  environment? := read environment environmentName
  apiCredential? := read environment apiCredentialName
  artifactApiBaseUrl? := read environment artifactApiBaseUrlName
  apiPathPrefix := (read environment apiPathPrefixName).getD ""
  globalWorkflowIds := globalIds (read environment globalWorkflowIdsName)

/-- The variables that should be set, with their values. -/
def expected (config : EditorConfig) : List (String × Option String) :=
  [(apiBaseUrlName, config.apiBaseUrl?), (environmentName, config.environment?),
    (artifactApiBaseUrlName, config.artifactApiBaseUrl?)]

/-- The warning about a variable that should be set. -/
def missingVariable (name : String) : Issue :=
  .warning "config_warning" (FieldPath.root.key name)
    s!"environment variable `{name}` was not set" "runner.config.missing_env"

/-- A warning for each variable that should be set and is not. -/
def issues (config : EditorConfig) : List Issue :=
  Issue.sort <| config.expected.filterMap fun (name, value?) =>
    if value?.isNone then some (missingVariable name) else none

/-- What the log says about the variable with the shared workflows. -/
def globalIdsLog (environment : Environment) : List LogEntry :=
  let entry (sourceLine : Nat) (message : String) : LogEntry :=
    ⟨.debug, "flowdeck_runner::config", sourceLine, globalWorkflowIdsName ++ message⟩
  match (read environment globalWorkflowIdsName).map parseGlobalIds with
  | some (.error .notArray) => [entry 94 " is not a JSON array; ignoring"]
  | some (.error (.notJson message)) =>
      [entry 98 (" is not valid JSON (" ++ message ++ "); ignoring")]
  | some (.ok _) | none => []

/-! ## Reporting -/

/-- What stands for a credential in reports. -/
def mask : String := "********"

/-- The configuration with its credential masked. -/
def masked (config : EditorConfig) : EditorConfig :=
  { config with apiCredential? := config.apiCredential?.map fun _ => mask }

/-- The configuration as JSON. -/
def toJson (config : EditorConfig) : Json :=
  .record [
    ("api_base_url", .ofText? config.apiBaseUrl?),
    ("environment", .ofText? config.environment?),
    ("api_credential", .ofText? config.apiCredential?),
    ("artifact_api_base_url", .ofText? config.artifactApiBaseUrl?),
    ("api_path_prefix", .string config.apiPathPrefix),
    ("global_workflow_ids", .array (config.globalWorkflowIds.map .string))]

@[simp] theorem masked_masked (config : EditorConfig) : config.masked.masked = config.masked := by
  cases held : config.apiCredential? <;> simp [masked, held]

/-- Masking leaves no trace of which credential was masked. -/
theorem masked_eq_of_isSome {config : EditorConfig} {credential other : String} :
    ({ config with apiCredential? := some credential } : EditorConfig).masked =
      ({ config with apiCredential? := some other } : EditorConfig).masked := rfl

end EditorConfig

end WorkflowEditor
