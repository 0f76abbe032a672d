import WorkflowEditor.Issue.Basic
import WorkflowEditor.Parameter.Basic
import WorkflowEditor.Text.Blank

/-!
# Checking parameters

Keys have to be distinct and must not be blank, and a context parameter has to
take its value from another parameter.  A repeated key is reported at each later
parameter, with the index of the first; blank keys name nothing.
-/

namespace WorkflowEditor

namespace Parameter

/-- The path of the parameter at an index. -/
def path (index : Nat) : FieldPath :=
  ((FieldPath.root.key "workflow_definition").key "parameters").index index

/-- The index of the first parameter with each key that is not blank, in the
order of the indices. -/
abbrev KeyIndex := List (String × Nat)

/-- The issue of a blank key. -/
def blankKey (index : Nat) : Issue :=
  .error "parameter_error" ((path index).key "key") "parameter key must not be empty"
    "parameter.key.empty"

/-- The issue of a repeated key. -/
def repeatedKey (index first : Nat) (key : String) : Issue :=
  .withParameterKey
    (.error "parameter_error" ((path index).key "key")
      s!"duplicate parameter key `{key}` (first at parameters[{first}])"
      "parameter.key.duplicate")
    key

/-- Take in the keys of parameters from an index on: the issues found, and the
index of the first parameter with each key. -/
def indexKeys : List Parameter → (index : Nat) → KeyIndex → List Issue × KeyIndex
  | [], _, known => ([], known)
  | parameter :: rest, index, known =>
      if Text.isBlank parameter.key then
        let (issues, final) := indexKeys rest (index + 1) known
        (blankKey index :: issues, final)
      else
        match Keyed.find? parameter.key known with
        | some first =>
            let (issues, final) := indexKeys rest (index + 1) known
            (repeatedKey index first parameter.key :: issues, final)
        | none => indexKeys rest (index + 1) (known ++ [(parameter.key, index)])

/-- The issue of a context parameter that names itself. -/
def selfSource (index : Nat) (key : String) : Issue :=
  .withParameterKey
    (.error "parameter_error" (((path index).key "source").key "key")
      s!"context parameter `{key}` cannot source itself" "parameter.context.self_source")
    key

/-- The issue of a context parameter that names no parameter. -/
def unknownSource (index : Nat) (key source : String) : Issue :=
  .withParameterKey
    (.error "parameter_error" (((path index).key "source").key "key")
      s!"context source `{source}` does not name a parameter" "parameter.context.unknown_source")
    key

/-- The issue of a parameter's source, if there is one. -/
def sourceIssue? (known : KeyIndex) (index : Nat) : Parameter → Option Issue
  | .context parameter =>
      if parameter.source.key = parameter.key then some (selfSource index parameter.key)
      else if (Keyed.find? parameter.source.key known).isNone then
        some (unknownSource index parameter.key parameter.source.key)
      else none
  | _ => none

/-- The issues of the sources of parameters from an index on. -/
def sourceIssues (known : KeyIndex) : List Parameter → (index : Nat) → List Issue
  | [], _ => []
  | parameter :: rest, index =>
      (sourceIssue? known index parameter).toList ++ sourceIssues known rest (index + 1)

/-- The issues of a workflow's parameters. -/
def check (parameters : List Parameter) : List Issue :=
  let (keyIssues, known) := indexKeys parameters 0 []
  Issue.sort (keyIssues ++ sourceIssues known parameters 0)

end Parameter

end WorkflowEditor
