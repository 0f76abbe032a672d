import WorkflowEditor.Proofs.FieldPath.RoundTrip
import WorkflowEditor.Proofs.Json.OneLine
import WorkflowEditor.Proofs.Parameter.Report
import WorkflowEditor.Proofs.Schema.Report
import WorkflowEditor.Proofs.Workflow.File

/-!
# Issues that fit on a line

An issue is written with its severity, its place, its message and its reference.  The
places that issues name lead through keys that the program itself writes, and so do
the references, so whether an issue fits on a line is up to its message
(`Issue.Framed.oneLine_display_iff`).  Loading a file and checking parameters report
nothing but such issues.  The messages of JSON syntax errors and of violations of the
schema quote the document as compact JSON or not at all and always fit.
-/

namespace WorkflowEditor

open Text (OneLine)

/-! ## Places -/

namespace FieldPath

/-- The keys on the path hold no line break. -/
def KeysOneLine (path : FieldPath) : Prop := ∀ name, .key name ∈ path.segments → OneLine name

variable {path : FieldPath}

theorem keysOneLine_root : root.KeysOneLine := nofun

theorem KeysOneLine.key (keys : path.KeysOneLine) (name : String) (oneLine : OneLine name) :
    (path.key name).KeysOneLine := by
  intro other member
  rcases List.mem_append.mp member with inPath | atEnd
  · exact keys other inPath
  · cases List.mem_singleton.mp atEnd
    exact oneLine

theorem KeysOneLine.index (keys : path.KeysOneLine) (position : Nat) :
    (path.index position).KeysOneLine := by
  intro other member
  rcases List.mem_append.mp member with inPath | atEnd
  · exact keys other inPath
  · cases List.mem_singleton.mp atEnd

theorem newline_not_mem_chars {step : Segment} (oneLine : ∀ name, step = .key name → OneLine name) :
    '\n' ∉ step.chars := by
  cases step with
  | key name =>
      rw [Segment.chars, List.mem_cons, not_or]
      exact ⟨by decide, oneLine name rfl⟩
  | index position =>
      rw [Segment.chars, List.cons_append, List.mem_cons, List.mem_append, not_or, not_or]
      refine ⟨by decide, fun member => ?_, by decide⟩
      have digit := Double.isDigit_of_mem_toDigits member
      contradiction

theorem KeysOneLine.oneLine_render (keys : path.KeysOneLine) : OneLine path.render := by
  rw [render, Text.oneLine_ofList, chars, List.mem_cons, List.mem_flatMap]
  rintro (dollar | ⟨step, member, broken⟩)
  · contradiction
  · exact newline_not_mem_chars (fun name same => keys name (same ▸ member)) broken

/-- Reading back a pointer brings no line break into a key. -/
theorem KeysOneLine.ofPointer_toPointer (keys : path.KeysOneLine) :
    (ofPointer path.toPointer).KeysOneLine := by
  rw [FieldPath.ofPointer_toPointer]
  intro name member
  obtain ⟨step, inPath, read⟩ := List.mem_filterMap.mp member
  cases step with
  | key original =>
      rw [readBack?_key, Option.ite_none_left_eq_some, Option.some.injEq] at read
      cases index : indexOfStep? original.toList with
      | none =>
          rw [index] at read
          cases read.2
          exact keys _ inPath
      | some position =>
          rw [index] at read
          cases read.2
  | index position =>
      -- digits beyond the bound are read as a key
      have digits : ∀ char ∈ Nat.toDigits 10 position, char.isDigit = true := fun _ =>
        Double.isDigit_of_mem_toDigits
      have noTilde : '~' ∉ Nat.toDigits 10 position := fun inDigits =>
        absurd (digits _ inDigits) (by decide)
      rw [readBack?, Option.ite_none_left_eq_some, Option.some.injEq, segmentOfStep, piece,
        unescape_of_tilde_not_mem noTilde] at read
      split at read
      next => cases read.2
      next =>
          cases read.2
          exact Text.oneLine_ofList.mpr fun inDigits => absurd (digits _ inDigits) (by decide)

end FieldPath

theorem Parameter.keysOneLine_path (index : Nat) : (Parameter.path index).KeysOneLine :=
  ((FieldPath.keysOneLine_root.key _ (by decide)).key _ (by decide)).index index

/-! ## Messages that always fit -/

/-- A violation quotes the document as compact JSON. -/
theorem Violation.oneLine_message {violation : Violation}
    (names : ∀ name, violation = .missing name → OneLine name) : OneLine violation.message := by
  have quoted : ∀ {name}, OneLine name → OneLine (quotedName name) := fun oneLine =>
    Text.oneLine_append.mpr ⟨Text.oneLine_append.mpr ⟨by decide, oneLine⟩, by decide⟩
  have type : ∀ type : JsonType, OneLine type.name := by
    intro type
    cases type <;> decide
  cases violation with
  | wrongType value allowed =>
      have compact := value.oneLine_compact
      rw [message.eq_def]
      split
      next value only same =>
          cases same
          exact Text.oneLine_append.mpr
            ⟨Text.oneLine_append.mpr ⟨compact, by decide⟩, quoted (type only)⟩
      next value allowed _ same =>
          cases same
          refine Text.oneLine_append.mpr ⟨Text.oneLine_append.mpr ⟨compact, by decide⟩, ?_⟩
          refine (Text.oneLine_intercalate (by decide)).mpr fun name member => ?_
          obtain ⟨name, inNames, rfl⟩ := List.mem_map.mp member
          rw [List.mem_mergeSort] at inNames
          obtain ⟨only, -, rfl⟩ := List.mem_map.mp inNames
          exact quoted (type only)
      next same => cases same
  | missing name =>
      exact Text.oneLine_append.mpr ⟨quoted (names name rfl), by decide⟩

theorem Json.SyntaxError.oneLine_message (error : Json.SyntaxError) (text : String) :
    OneLine (error.message text) := by
  have fault : OneLine error.fault.message := by
    cases error.fault <;> decide
  refine Text.oneLine_append.mpr ⟨fault, ?_⟩
  let position := error.position text
  change OneLine (" at line " ++ toString position.line ++ " column " ++ toString position.column)
  simp only [Text.oneLine_append]
  exact ⟨⟨⟨by decide, Text.oneLine_toString _⟩, by decide⟩, Text.oneLine_toString _⟩

/-! ## Issues -/

namespace Issue

/-- All that is written around the message of the issue fits on a line, and so does the
message of a JSON syntax error or a violation of the schema. -/
structure Framed (issue : Issue) : Prop where
  place : issue.path.KeysOneLine
  reference : ∀ reference, issue.reference? = some reference → OneLine reference
  fixed : issue.reference? = some "json.parse_error" ∨
    issue.reference? = some "json_schema.validation" → OneLine issue.message

/-- An issue fits on a line exactly when its message does. -/
theorem Framed.oneLine_display_iff {issue : Issue} (framed : issue.Framed) :
    OneLine issue.display ↔ OneLine issue.message := by
  have severity : OneLine issue.severity.name := by
    cases issue.severity <;> decide
  have place := framed.place.oneLine_render
  have reference :
      OneLine (issue.reference?.elim "" fun reference => " (" ++ reference ++ ")") := by
    rw [Text.oneLine_elim]
    intro reference present
    exact Text.oneLine_append.mpr
      ⟨Text.oneLine_append.mpr ⟨by decide, framed.reference reference present⟩, by decide⟩
  have marks : OneLine " " ∧ OneLine ": " := by decide
  rw [display]
  simp only [Text.oneLine_append, severity, place, reference, marks, true_and, and_true]

theorem Framed.relate {issue : Issue} (framed : issue.Framed) (file : String) :
    (WorkflowFile.relate file issue).Framed :=
  ⟨framed.place, framed.reference, framed.fixed⟩

/-- An issue with another reference has its place and its reference to be checked
only. -/
theorem framed_of_reference {issue : Issue} {reference : String} (place : issue.path.KeysOneLine)
    (referred : issue.reference? = some reference) (oneLine : OneLine reference)
    (other : reference ≠ "json.parse_error" ∧ reference ≠ "json_schema.validation") :
    issue.Framed := by
  refine ⟨place, fun _ same => ?_, fun fixed => ?_⟩
  · rw [referred] at same
    exact Option.some.inj same ▸ oneLine
  · rw [referred, Option.some.injEq, Option.some.injEq] at fixed
    exact (fixed.elim other.1 other.2).elim

end Issue

open Issue (Framed framed_of_reference)

namespace Document

theorem framed_of_parseJson {text : String} {issues : List Issue}
    (failed : parseJson text = .error issues) : ∀ issue ∈ issues, issue.Framed := by
  obtain ⟨error, rfl⟩ := exists_cause_of_mapError failed
  refine List.forall_mem_singleton.mpr ⟨FieldPath.keysOneLine_root, ?_, fun _ => ?_⟩
  · rintro _ ⟨⟩
    decide
  · exact Text.oneLine_append.mpr ⟨by decide, error.oneLine_message text⟩

theorem framed_yamlIssue (error : Yaml.ParseError) : (yamlIssue error).Framed := by
  rcases ite_eq_or_eq (mentionsDuplicate error.message = true) "yaml.duplicate_key"
    "yaml.parse_error" with reference | reference
  · exact framed_of_reference FieldPath.keysOneLine_root (congrArg some reference) (by decide)
      (by decide)
  · exact framed_of_reference FieldPath.keysOneLine_root (congrArg some reference) (by decide)
      (by decide)

theorem framed_of_parseYaml {text : String} {issues : List Issue}
    (failed : parseYaml text = .error issues) : ∀ issue ∈ issues, issue.Framed := by
  rw [parseYaml] at failed
  cases parsed : Yaml.parse text with
  | error error =>
      rw [parsed] at failed
      cases failed
      exact List.forall_mem_singleton.mpr (framed_yamlIssue error)
  | ok tree =>
      rw [parsed] at failed
      change (tree.toJson.mapError fun error => [conversionIssue error]) = _ at failed
      obtain ⟨error, rfl⟩ := exists_cause_of_mapError failed
      exact List.forall_mem_singleton.mpr
        (framed_of_reference FieldPath.keysOneLine_root rfl (by decide) (by decide))

theorem framed_of_parse {format : Format} {text : String} {issues : List Issue}
    (failed : parse format text = .error issues) : ∀ issue ∈ issues, issue.Framed := by
  cases format with
  | json => exact framed_of_parseJson failed
  | yaml => exact framed_of_parseYaml failed
  | auto =>
      rw [parse] at failed
      split at failed
      · exact framed_of_parseJson failed
      · exact framed_of_parseYaml failed

end Document

namespace Schema

theorem oneLine_workflowNames : ∀ name ∈ workflowNames, OneLine name := by decide

/-- What the schema requires are names that it speaks of. -/
theorem WorkflowDemands.required_subset {steps : List Segment} {demand : Demand}
    (demands : WorkflowDemands steps demand) : demand.required ⊆ workflowNames := by
  cases demands <;> decide

theorem framed_of_mem_check {document : Json} {issue : Issue}
    (reported : issue ∈ workflow.check document) : issue.Framed := by
  rw [check, (Issue.sort_perm _).mem_iff, List.mem_map] at reported
  obtain ⟨⟨place, violation⟩, listed, rfl⟩ := reported
  obtain ⟨demand, value, demands, -, broken⟩ := breaks_iff_mem_violations.mp listed
  have keys : place.KeysOneLine := fun name member =>
    oneLine_workflowNames name (demands.mem_workflowNames name member)
  refine ⟨keys.ofPointer_toPointer, ?_, fun _ => Violation.oneLine_message ?_⟩
  · rintro _ ⟨⟩
    decide
  · rintro name rfl
    cases broken with
    | missing required _ =>
        exact oneLine_workflowNames name (demands.required_subset required)

end Schema

namespace Workflow

theorem framed_of_kindReport? {document : Json} {index : Nat} {issue : Issue}
    (reported : kindReport? document index = some issue) : issue.Framed := by
  rw [kindReport?] at reported
  split at reported
  next =>
      rw [Option.ite_none_left_eq_some, Option.some.injEq] at reported
      obtain ⟨-, rfl⟩ := reported
      exact framed_of_reference ((Parameter.keysOneLine_path index).key _ (by decide)) rfl
        (by decide) (by decide)
  next => contradiction

theorem framed_of_ofText {text : String} {format : Document.Format} {checkSchema : Bool}
    {issues : List Issue} (failed : ofText text format checkSchema = .error issues) :
    ∀ issue ∈ issues, issue.Framed := by
  rw [ofText_eq_bind] at failed
  cases parsed : Document.parse format text with
  | error parseIssues =>
      rw [parsed] at failed
      cases failed
      exact Document.framed_of_parse parsed
  | ok document =>
      rw [parsed] at failed
      intro issue member
      rcases mem_of_ofJson_eq_error failed member with ⟨index, reported⟩ | reported | ⟨error, rfl⟩
      · exact framed_of_kindReport? reported
      · exact Schema.framed_of_mem_check reported
      · exact framed_of_reference FieldPath.keysOneLine_root rfl (by decide) (by decide)

end Workflow

/-- Loading a file reports nothing but framed issues. -/
theorem WorkflowFile.framed_of_workflow? {file : String} {content : FileContent}
    {issues : List Issue} (failed : workflow? file content = .error issues) :
    ∀ issue ∈ issues, issue.Framed := by
  cases content with
  | error error =>
      cases failed
      exact List.forall_mem_singleton.mpr
        (framed_of_reference FieldPath.keysOneLine_root rfl (by decide) (by decide))
  | ok text =>
      have occupied : ¬IsVacant (format file) text := fun vacant => by
        rw [workflow?_of_vacant vacant] at failed
        contradiction
      rw [workflow?_of_not_vacant occupied] at failed
      cases read : Workflow.ofText text (format file) true with
      | ok workflow =>
          rw [read] at failed
          contradiction
      | error found =>
          rw [read] at failed
          cases failed
          intro issue member
          obtain ⟨original, inFound, rfl⟩ := List.mem_map.mp member
          exact (Workflow.framed_of_ofText read original inFound).relate file

/-- Checking parameters reports nothing but framed issues. -/
theorem Parameter.framed_of_mem_check {parameters : List Parameter} {issue : Issue}
    (reported : issue ∈ check parameters) : issue.Framed := by
  rw [check_eq_report, report, List.mem_flatMap] at reported
  obtain ⟨⟨parameter, index⟩, -, member⟩ := reported
  have key := (keysOneLine_path index).key "key" (by decide)
  have source := ((keysOneLine_path index).key "source" (by decide)).key "key" (by decide)
  rcases List.mem_append.mp member with atKey | atSource
  · rcases keyReport?_eq_some_iff.mp (Option.mem_toList.mp atKey) with
      ⟨-, rfl⟩ | ⟨-, first, -, -, -, rfl⟩
    · exact framed_of_reference key rfl (by decide) (by decide)
    · exact framed_of_reference key rfl (by decide) (by decide)
  · obtain ⟨context, rfl, ⟨-, rfl⟩ | ⟨-, -, rfl⟩⟩ :=
      sourceReport?_eq_some_iff.mp (Option.mem_toList.mp atSource)
    · exact framed_of_reference source rfl (by decide) (by decide)
    · exact framed_of_reference source rfl (by decide) (by decide)

end WorkflowEditor
