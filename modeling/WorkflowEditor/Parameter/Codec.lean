import WorkflowEditor.Parameter.Basic
import WorkflowEditor.Decode.Decoder

/-!
# Parameters as JSON

A parameter is an object whose member `parameter_type` names its kind.  Written
objects hold every field of the kind, with null for what is absent.
-/

namespace WorkflowEditor

/-- Read the type of an input. -/
def InputType.decoder : Decoder InputType :=
  .constants [
    ("string", .string),
    ("integer", .integer),
    ("float", .float),
    ("boolean", .boolean),
    ("json", .json),
    ("file_url", .fileUrl),
    ("credential_id", .credentialId)]

/-- Read an input. -/
def InputParameter.decoder : Decoder InputParameter :=
  .record "struct WorkflowInputParameter"
    (.field "key" .text .error <|
     .field "description" (.option .text) (.default none) <|
     .field "workflow_parameter_type" InputType.decoder .error <|
     .field "default_value" (.option .any) (.default none) .done)
    fun (key, description?, inputType, defaultValue?, ()) =>
      { key, description?, inputType, defaultValue? }

/-- Read the source of a context parameter. -/
def ContextSource.decoder : Decoder ContextSource :=
  .record "struct ContextSource" (.field "key" .text .error .done) fun (key, ()) => { key }

/-- Read a context parameter. -/
def ContextParameter.decoder : Decoder ContextParameter :=
  .record "struct ContextParameter"
    (.field "key" .text .error <|
     .field "description" (.option .text) (.default none) <|
     .field "source" ContextSource.decoder .error <|
     .field "value" (.option .any) (.default none) .done)
    fun (key, description?, source, value?, ()) => { key, description?, source, value? }

/-- Read fields of an identity. -/
def SensitiveInformationParameter.decoder : Decoder SensitiveInformationParameter :=
  .record "struct BitwardenSensitiveInformationParameter"
    (.field "key" .text .error <|
     .field "description" (.option .text) (.default none) <|
     .field "bitwarden_collection_id" .text .error <|
     .field "bitwarden_identity_key" .text .error <|
     .field "bitwarden_identity_fields" (.list .text) (.default []) .done)
    fun (key, description?, collectionId, identityKey, identityFields, ()) =>
      { key, description?, collectionId, identityKey, identityFields }

/-- Read a credit card. -/
def CreditCardParameter.decoder : Decoder CreditCardParameter :=
  .record "struct BitwardenCreditCardDataParameter"
    (.field "key" .text .error <|
     .field "description" (.option .text) (.default none) <|
     .field "bitwarden_collection_id" .text .error <|
     .field "bitwarden_item_id" .text .error .done)
    fun (key, description?, collectionId, itemId, ()) =>
      { key, description?, collectionId, itemId }

/-- Read a login. -/
def LoginCredentialParameter.decoder : Decoder LoginCredentialParameter :=
  .record "struct BitwardenLoginCredentialParameter"
    (.field "key" .text .error <|
     .field "description" (.option .text) (.default none) <|
     .field "bitwarden_collection_id" (.option .text) (.default none) <|
     .field "url_parameter_key" .text .error .done)
    fun (key, description?, collectionId?, urlParameterKey, ()) =>
      { key, description?, collectionId?, urlParameterKey }

/-- Read a secret. -/
def AwsSecretParameter.decoder : Decoder AwsSecretParameter :=
  .record "struct AwsSecretParameter"
    (.field "key" .text .error <|
     .field "description" (.option .text) (.default none) <|
     .field "aws_key" .text .error .done)
    fun (key, description?, awsKey, ()) => { key, description?, awsKey }

/-- Read an output. -/
def OutputParameter.decoder : Decoder OutputParameter :=
  .record "struct OutputParameter"
    (.field "key" .text .error <|
     .field "description" (.option .text) (.default none) .done)
    fun (key, description?, ()) => { key, description? }

namespace Parameter

/-- Read a parameter. -/
def decoder : Decoder Parameter :=
  .tagged "WorkflowParameter" "parameter_type" [
    ("workflow", .map .input InputParameter.decoder),
    ("context", .map .context ContextParameter.decoder),
    ("bitwarden_sensitive_information",
      .map .sensitiveInformation SensitiveInformationParameter.decoder),
    ("bitwarden_credit_card_data", .map .creditCard CreditCardParameter.decoder),
    ("bitwarden_login_credential", .map .loginCredential LoginCredentialParameter.decoder),
    ("aws_secret", .map .awsSecret AwsSecretParameter.decoder),
    ("output", .map .output OutputParameter.decoder)]

/-- The fields of a parameter's own kind, as members. -/
def ownMembers : Parameter → Json.Members
  | .input parameter =>
      [("workflow_parameter_type", .string parameter.inputType.name),
       ("default_value", parameter.defaultValue?.getD .null)]
  | .context parameter =>
      [("source", .record [("key", .string parameter.source.key)]),
       ("value", parameter.value?.getD .null)]
  | .sensitiveInformation parameter =>
      [("bitwarden_collection_id", .string parameter.collectionId),
       ("bitwarden_identity_key", .string parameter.identityKey),
       ("bitwarden_identity_fields", .array (parameter.identityFields.map .string))]
  | .creditCard parameter =>
      [("bitwarden_collection_id", .string parameter.collectionId),
       ("bitwarden_item_id", .string parameter.itemId)]
  | .loginCredential parameter =>
      [("bitwarden_collection_id", .ofText? parameter.collectionId?),
       ("url_parameter_key", .string parameter.urlParameterKey)]
  | .awsSecret parameter => [("aws_key", .string parameter.awsKey)]
  | .output _ => []

/-- A parameter as JSON. -/
def toJson (parameter : Parameter) : Json :=
  .record <|
    [("parameter_type", .string parameter.tag),
     ("key", .string parameter.key),
     ("description", .ofText? parameter.description?)] ++
    parameter.ownMembers

end Parameter

end WorkflowEditor
