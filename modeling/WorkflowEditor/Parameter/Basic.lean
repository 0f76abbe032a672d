import WorkflowEditor.Json.Basic

/-!
# Workflow parameters

A workflow declares its parameters.  Each has a key and perhaps a description,
and is of one of seven kinds: an input of the workflow, a value taken from
another parameter, one of three kinds of Bitwarden items, a secret of AWS, or an
output.
-/

namespace WorkflowEditor

/-- The type of the value that an input takes. -/
inductive InputType where
  | string
  | integer
  | float
  | boolean
  | json
  | fileUrl
  | credentialId
  deriving DecidableEq, Repr, Inhabited

/-- An input of the workflow. -/
structure InputParameter where
  key : String
  description? : Option String
  inputType : InputType
  defaultValue? : Option Json
  deriving DecidableEq, Repr

/-- The parameter from which a context parameter takes its value. -/
structure ContextSource where
  key : String
  deriving DecidableEq, Repr

/-- A value taken from another parameter. -/
structure ContextParameter where
  key : String
  description? : Option String
  source : ContextSource
  value? : Option Json
  deriving DecidableEq, Repr

/-- Fields of an identity that Bitwarden keeps. -/
structure SensitiveInformationParameter where
  key : String
  description? : Option String
  collectionId : String
  identityKey : String
  identityFields : List String
  deriving DecidableEq, Repr

/-- A credit card that Bitwarden keeps. -/
structure CreditCardParameter where
  key : String
  description? : Option String
  collectionId : String
  itemId : String
  deriving DecidableEq, Repr

/-- A login that Bitwarden keeps for the address in another parameter. -/
structure LoginCredentialParameter where
  key : String
  description? : Option String
  collectionId? : Option String
  urlParameterKey : String
  deriving DecidableEq, Repr

/-- A secret that AWS keeps. -/
structure AwsSecretParameter where
  key : String
  description? : Option String
  awsKey : String
  deriving DecidableEq, Repr

/-- A value that the workflow produces. -/
structure OutputParameter where
  key : String
  description? : Option String
  deriving DecidableEq, Repr

/-- A parameter of a workflow. -/
inductive Parameter where
  | input (parameter : InputParameter)
  | context (parameter : ContextParameter)
  | sensitiveInformation (parameter : SensitiveInformationParameter)
  | creditCard (parameter : CreditCardParameter)
  | loginCredential (parameter : LoginCredentialParameter)
  | awsSecret (parameter : AwsSecretParameter)
  | output (parameter : OutputParameter)
  deriving DecidableEq, Repr

/-- The name of an input's type. -/
def InputType.name : InputType → String
  | .string => "string"
  | .integer => "integer"
  | .float => "float"
  | .boolean => "boolean"
  | .json => "json"
  | .fileUrl => "file_url"
  | .credentialId => "credential_id"

namespace Parameter

/-- The key of a parameter. -/
def key : Parameter → String
  | .input parameter => parameter.key
  | .context parameter => parameter.key
  | .sensitiveInformation parameter => parameter.key
  | .creditCard parameter => parameter.key
  | .loginCredential parameter => parameter.key
  | .awsSecret parameter => parameter.key
  | .output parameter => parameter.key

/-- The description of a parameter. -/
def description? : Parameter → Option String
  | .input parameter => parameter.description?
  | .context parameter => parameter.description?
  | .sensitiveInformation parameter => parameter.description?
  | .creditCard parameter => parameter.description?
  | .loginCredential parameter => parameter.description?
  | .awsSecret parameter => parameter.description?
  | .output parameter => parameter.description?

/-- The name of a parameter's kind. -/
def tag : Parameter → String
  | .input _ => "workflow"
  | .context _ => "context"
  | .sensitiveInformation _ => "bitwarden_sensitive_information"
  | .creditCard _ => "bitwarden_credit_card_data"
  | .loginCredential _ => "bitwarden_login_credential"
  | .awsSecret _ => "aws_secret"
  | .output _ => "output"

/-- The names of the kinds. -/
def tags : List String :=
  ["workflow", "context", "bitwarden_sensitive_information", "bitwarden_credit_card_data",
    "bitwarden_login_credential", "aws_secret", "output"]

/-- Every parameter has one of the seven kinds. -/
theorem tag_mem_tags (parameter : Parameter) : parameter.tag ∈ tags := by
  cases parameter <;> simp [tag, tags]

end Parameter

end WorkflowEditor
