import WorkflowEditor.Log.Entry
import WorkflowEditor.Workflow.Document
import WorkflowEditor.Workflow.FileFormat

/-!
# Workflow files

A file is read in the format that its name tells.  A file that is blank or that
writes null holds no workflow, which is no error.  Every issue of a file carries
the name of the file.
-/

namespace WorkflowEditor

/-- Why a file cannot be read as text. -/
inductive FileError where
  | notFound
  | isDirectory
  | notText
  | system (message : String)
  deriving DecidableEq, Repr

/-- The wording of a file error. -/
def FileError.message : FileError → String
  | .notFound => "No such file or directory (os error 2)"
  | .isDirectory => "Is a directory (os error 21)"
  | .notText => "stream did not contain valid UTF-8"
  | .system message => message

/-- The text of a file, or why there is none. -/
abbrev FileContent := Except FileError String

/-- What a file holds. -/
inductive LoadedWorkflow where
  | blank
  | null
  | found (workflow : Workflow)
  deriving DecidableEq, Repr

namespace LoadedWorkflow

/-- The workflow, if there is one. -/
def workflow? : LoadedWorkflow → Option Workflow
  | .found workflow => some workflow
  | .blank | .null => none

/-- What the log says about a file without a workflow. -/
def log (file : String) : LoadedWorkflow → List LogEntry
  | .blank => [entry 28 " is empty"]
  | .null => [entry 40 " holds no workflow"]
  | .found _ => []
where
  /-- An entry about the file. -/
  entry (sourceLine : Nat) (what : String) : LogEntry :=
    ⟨.debug, "flowdeck_runner::io::read_workflow", sourceLine,
      s!"workflow file `{file}`" ++ what⟩

end LoadedWorkflow

namespace WorkflowFile

/-- Add the name of the file to what an issue is related to. -/
def relate (file : String) (issue : Issue) : Issue :=
  .withRelated issue <|
    match issue.related? with
    | some (.object members) => .object (Keyed.insert "file" (.string file) members)
    | some other => .record [("file", .string file), ("details", other)]
    | none => .record [("file", .string file)]

/-- The issue of a file that cannot be read. -/
def unreadable (file : String) (error : FileError) : Issue :=
  .withRelated
    (.error "workflow_io_error" .root ("read file failed: " ++ error.message)
      "runner.workflow.read_file_failed")
    (.record [("file", .string file)])

/-- What a document holds. -/
def ofDocument (document : Json) : Except (List Issue) LoadedWorkflow :=
  if document = .null then .ok .null
  else (Workflow.ofJson document true).map .found

/-- What a file holds, or the issues that prevent it. -/
def load (file : String) (content : FileContent) : Except (List Issue) LoadedWorkflow :=
  match content with
  | .error error => .error [unreadable file error]
  | .ok text =>
      if Text.isBlank text then .ok .blank
      else
        ((Document.parse (format file) text).bind ofDocument).mapError (List.map (relate file))

end WorkflowFile

end WorkflowEditor
