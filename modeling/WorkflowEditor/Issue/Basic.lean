import WorkflowEditor.FieldPath.Order
import WorkflowEditor.FieldPath.Codec

/-!
# Issues

An issue tells what is wrong, how badly, and at which place of the document.
Issues are reported in one order, which depends on their severity, kind, path,
message and parameter, and on nothing else; issues that agree in these keep
their order.
-/

namespace WorkflowEditor

/-- How bad an issue is. -/
inductive Severity where
  | error
  | warning
  | info
  deriving DecidableEq, Repr, Inhabited

namespace Severity

/-- The name of a severity. -/
def name : Severity → String
  | .error => "error"
  | .warning => "warning"
  | .info => "info"

/-- The place of a severity in the order, the worst first. -/
def rank : Severity → Nat
  | .error => 0
  | .warning => 1
  | .info => 2

/-- Read a severity. -/
def decoder : Decoder Severity :=
  .constants [("error", .error), ("warning", .warning), ("info", .info)]

end Severity

/-- Something to report about a document. -/
structure Issue where
  kind : String
  severity : Severity
  parameterKey? : Option String
  path : FieldPath
  message : String
  reference? : Option String
  related? : Option Json
  deriving DecidableEq, Repr

namespace Issue

/-- An issue of the severity. -/
def ofSeverity (severity : Severity) (kind : String) (path : FieldPath)
    (message reference : String) : Issue :=
  { kind, severity, parameterKey? := none, path, message, reference? := some reference,
    related? := none }

/-- An error. -/
def error (kind : String) (path : FieldPath) (message reference : String) : Issue :=
  ofSeverity .error kind path message reference

/-- A warning. -/
def warning (kind : String) (path : FieldPath) (message reference : String) : Issue :=
  ofSeverity .warning kind path message reference

/-- The issue with the key of the parameter that it is about. -/
def withParameterKey (issue : Issue) (key : String) : Issue :=
  { issue with parameterKey? := some key }

/-- The issue with something that helps to understand it. -/
def withRelated (issue : Issue) (related : Json) : Issue :=
  { issue with related? := some related }

/-- Whether the issue is an error. -/
def isError (issue : Issue) : Bool := issue.severity == .error

/-- The line that reports the issue. -/
def display (issue : Issue) : String :=
  issue.severity.name ++ " " ++ issue.path.render ++ ": " ++ issue.message ++
    issue.reference?.elim "" fun reference => " (" ++ reference ++ ")"

/-- Whether there is an error among the issues. -/
def hasErrors (issues : List Issue) : Bool := issues.any isError

/-! ## Order -/

/-- The order of issues. -/
def compare : Issue → Issue → Ordering :=
  compareLex (compareOn fun issue => issue.severity.rank) <|
  compareLex (compareOn fun issue => issue.kind) <|
  compareLex (fun left right => left.path.compare right.path) <|
  compareLex (compareOn fun issue => issue.message) <|
  compareOn fun issue => issue.parameterKey?

/-- The issues in order; those that compare equal keep theirs. -/
def sort (issues : List Issue) : List Issue :=
  issues.mergeSort fun left right => (left.compare right).isLE

/-! ## JSON -/

/-- An issue as JSON, without what it does not have. -/
def toJson (issue : Issue) : Json :=
  .record <|
    [("kind", .string issue.kind), ("severity", .string issue.severity.name)] ++
    (issue.parameterKey?.map fun key => ("parameter_key", Json.string key)).toList ++
    [("field_path", issue.path.toJson), ("message", .string issue.message)] ++
    (issue.reference?.map fun reference => ("reference", Json.string reference)).toList ++
    (issue.related?.map fun related => ("related", related)).toList

/-- Read an issue. -/
def decoder : Decoder Issue :=
  .record "struct StructuredIssue"
    (.field "kind" .text .error <|
     .field "severity" Severity.decoder .error <|
     .field "parameter_key" (.option .text) (.unnamed none) <|
     .field "field_path" FieldPath.decoder .error <|
     .field "message" .text .error <|
     .field "reference" (.option .text) (.unnamed none) <|
     .field "related" (.option .any) (.unnamed none) .done)
    fun (kind, severity, parameterKey?, path, message, reference?, related?, ()) =>
      { kind, severity, parameterKey?, path, message, reference?, related? }

@[simp] theorem isError_error (kind : String) (path : FieldPath) (message reference : String) :
    (error kind path message reference).isError = true := rfl

@[simp] theorem isError_warning (kind : String) (path : FieldPath) (message reference : String) :
    (warning kind path message reference).isError = false := rfl

@[simp] theorem isError_withParameterKey (issue : Issue) (key : String) :
    (issue.withParameterKey key).isError = issue.isError := rfl

@[simp] theorem isError_withRelated (issue : Issue) (related : Json) :
    (issue.withRelated related).isError = issue.isError := rfl

/-- Sorting loses and adds nothing. -/
theorem sort_perm (issues : List Issue) : (sort issues).Perm issues :=
  List.mergeSort_perm _ _

end Issue

end WorkflowEditor
