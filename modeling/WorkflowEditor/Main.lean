import WorkflowEditor.Program

/-!
# The command line program

The outer layer: it fetches the variables and the file that a run may look at, runs,
and writes what the run leaves.
-/

namespace WorkflowEditor.Main

/-- The variables that a run may look at. -/
def variableNames : List String :=
  [EditorConfig.apiBaseUrlName, EditorConfig.environmentName, EditorConfig.apiCredentialName,
    EditorConfig.artifactApiBaseUrlName, EditorConfig.apiPathPrefixName,
    EditorConfig.globalWorkflowIdsName, Invocation.logVariable]

/-- The current values of the variables. -/
def environment : IO Environment := do
  let values ← variableNames.mapM fun name => do return (name, ← IO.getEnv name)
  return fun name => (values.lookup name).join

/-- The file error behind a failure to read. -/
def fileError : IO.Error → FileError
  | .noFileOrDirectory _ _ _ => .notFound
  | .inappropriateType _ _ _ => .isDirectory
  | .permissionDenied _ code details => .system s!"{details} (os error {code})"
  | other => .system other.toString

/-- The content of a file. -/
def content (file : String) : IO FileContent := do
  try
    match String.fromUTF8? (← IO.FS.readBinFile file) with
    | some text => return .ok text
    | none => return .error .notText
  catch error => return .error (fileError error)

/-- The files that the command line names. -/
def files (arguments : List String) : IO FileSystem := do
  let named? : Option String :=
    match Invocation.parse arguments with
    | .ok invocation => invocation.command.file?
    | .error _ => none
  match named? with
  | none => return fun _ => .error .notFound
  | some file =>
      let found ← content file
      return fun name => if name = file then found else .error .notFound

end WorkflowEditor.Main

/-- Run the program. -/
def main (arguments : List String) : IO UInt32 := do
  let outcome :=
    WorkflowEditor.run arguments (← WorkflowEditor.Main.environment)
      (← WorkflowEditor.Main.files arguments)
  IO.print outcome.output
  IO.eprint outcome.errors
  return outcome.exitCode.toUInt32
