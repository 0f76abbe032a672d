import Mathlib.Data.List.Forall2
import WorkflowEditor.Proofs.Json.Blank
import WorkflowEditor.Proofs.Json.Members
import WorkflowEditor.Proofs.Workflow.Phases
import WorkflowEditor.Workflow.File

/-!
# Loading a file is reading its text

A file is loaded by reading its text in the format that its name tells, with the
schema checked.  Two things are different: a file that is blank or writes null
holds no workflow, which reading a text would reject, and every issue names the
file among what it is related to.  `WorkflowFile.workflow?_agrees` states both.

Naming the file loses nothing because an issue of a text is related to nothing or
to the position of an error, and neither names a file
(`Workflow.unlocated_of_ofText`).
-/

namespace WorkflowEditor

open Json (Members)

/-! ## Naming the file -/

namespace Issue

/-- The members of what an issue is related to; there are none if it is related to
nothing. -/
def RelatedMembers (issue : Issue) (members : Members) : Prop :=
  issue.related? = none ∧ members = [] ∨ issue.related? = some (.object members)

/-- The issue is related to nothing, or to an object that does not name a file. -/
def Unlocated (issue : Issue) : Prop :=
  ∃ members, issue.RelatedMembers members ∧ Keyed.Sorted members ∧
    Keyed.find? "file" members = none

/-- The located issue is the other one, but among what it is related to it names the
file, which the other does not. -/
structure Locates (file : String) (issue located : Issue) : Prop where
  same : located = { issue with related? := located.related? }
  related : ∃ before after : Members,
    issue.RelatedMembers before ∧ located.related? = some (.object after) ∧
      Keyed.Sorted after ∧ Keyed.find? "file" before = none ∧
      ∀ name, Keyed.find? name after =
        if name = "file" then some (.string file) else Keyed.find? name before

theorem RelatedMembers.unique {issue : Issue} {left right : Members}
    (leftRelated : issue.RelatedMembers left) (rightRelated : issue.RelatedMembers right) :
    left = right := by
  rcases leftRelated with ⟨leftNone, rfl⟩ | leftSome <;>
    rcases rightRelated with ⟨rightNone, rfl⟩ | rightSome
  · rfl
  · rw [leftNone] at rightSome
    contradiction
  · rw [rightNone] at leftSome
    contradiction
  · rw [leftSome] at rightSome
    cases rightSome
    rfl

theorem unlocated_of_related?_eq_none {issue : Issue} (nothing : issue.related? = none) :
    issue.Unlocated :=
  ⟨[], Or.inl ⟨nothing, rfl⟩, List.Pairwise.nil, rfl⟩

variable {file : String} {issue located : Issue}

/-- Adding the name of the file locates an issue that names none. -/
theorem locates_relate (unlocated : issue.Unlocated) :
    issue.Locates file (WorkflowFile.relate file issue) := by
  obtain ⟨members, related, sorted, unnamed⟩ := unlocated
  refine ⟨rfl, members, Keyed.insert "file" (.string file) members, related, ?_,
    sorted.insert, unnamed, fun name => ?_⟩
  · rcases related with ⟨nothing, rfl⟩ | something
    · rw [WorkflowFile.relate, nothing]
      rfl
    · rw [WorkflowFile.relate, something]
      rfl
  · rw [Keyed.find?_insert]
    exact if_congr eq_comm rfl rfl

/-- There is only one way to locate an issue. -/
theorem Locates.unique {other : Issue} (locates : issue.Locates file located)
    (otherLocates : issue.Locates file other) : located = other := by
  obtain ⟨same, before, after, related, relatedAfter, sorted, -, found⟩ := locates
  obtain ⟨otherSame, otherBefore, otherAfter, otherRelated, otherRelatedAfter, otherSorted, -,
    otherFound⟩ := otherLocates
  cases related.unique otherRelated
  have sameAfter : after = otherAfter := by
    apply sorted.ext otherSorted
    intro name
    rw [found, otherFound]
  rw [same, otherSame, relatedAfter, otherRelatedAfter, sameAfter]

/-- Issues that name no file are located by adding the name to each of them. -/
theorem forall₂_locates_iff {issues locatedIssues : List Issue}
    (unlocated : ∀ issue ∈ issues, issue.Unlocated) :
    List.Forall₂ (Locates file) issues locatedIssues ↔
      locatedIssues = issues.map (WorkflowFile.relate file) := by
  constructor
  · intro located
    induction located with
    | nil => rfl
    | @cons issue located issues locatedIssues first _ ih =>
        have here : issue.Locates file (WorkflowFile.relate file issue) :=
          locates_relate (unlocated issue List.mem_cons_self)
        rw [List.map_cons, first.unique here,
          ih fun other member => unlocated other (List.mem_cons_of_mem _ member)]
  · rintro rfl
    rw [List.forall₂_map_right_iff, List.forall₂_same]
    exact fun issue member => locates_relate (unlocated issue member)

end Issue

/-! ## Issues of a text name no file -/

namespace Document

/-- An error that is reported by one issue is the cause of the issues. -/
theorem exists_cause_of_mapError {ε α : Type} {outcome : Except ε α} {report : ε → Issue}
    {issues : List Issue}
    (failed : (outcome.mapError fun error => [report error]) = .error issues) :
    ∃ error, issues = [report error] := by
  cases outcome with
  | ok value => contradiction
  | error error =>
      cases failed
      exact ⟨error, rfl⟩

theorem unlocated_of_parseJson {text : String} {issues : List Issue}
    (failed : parseJson text = .error issues) : ∀ issue ∈ issues, issue.Unlocated := by
  obtain ⟨error, rfl⟩ := exists_cause_of_mapError failed
  refine List.forall_mem_singleton.mpr ⟨_, Or.inr rfl, Keyed.sorted_ofList _, ?_⟩
  simp [Keyed.ofList, Keyed.find?_insert]

theorem unlocated_of_parseYaml {text : String} {issues : List Issue}
    (failed : parseYaml text = .error issues) : ∀ issue ∈ issues, issue.Unlocated := by
  rw [parseYaml] at failed
  cases parsed : Yaml.parse text with
  | error error =>
      rw [parsed] at failed
      cases failed
      exact List.forall_mem_singleton.mpr (Issue.unlocated_of_related?_eq_none rfl)
  | ok tree =>
      rw [parsed] at failed
      change (tree.toJson.mapError fun error => [conversionIssue error]) = _ at failed
      obtain ⟨error, rfl⟩ := exists_cause_of_mapError failed
      exact List.forall_mem_singleton.mpr (Issue.unlocated_of_related?_eq_none rfl)

/-- The text of a document is rejected for issues that name no file. -/
theorem unlocated_of_parse {format : Format} {text : String} {issues : List Issue}
    (failed : parse format text = .error issues) : ∀ issue ∈ issues, issue.Unlocated := by
  cases format with
  | json => exact unlocated_of_parseJson failed
  | yaml => exact unlocated_of_parseYaml failed
  | auto =>
      rw [parse] at failed
      split at failed
      · exact unlocated_of_parseJson failed
      · exact unlocated_of_parseYaml failed

end Document

namespace Workflow

theorem unlocated_of_ofJson {document : Json} {checkSchema : Bool} {issues : List Issue}
    (failed : ofJson document checkSchema = .error issues) :
    ∀ issue ∈ issues, issue.Unlocated := by
  intro issue member
  apply Issue.unlocated_of_related?_eq_none
  rcases mem_of_ofJson_eq_error failed member with ⟨index, reported⟩ | reported | ⟨error, rfl⟩
  · exact (kindReport?_concerns reported).2.2
  · exact (mem_check_schema reported).2.2.2
  · rfl

/-- A text gives the workflow of the document that it writes. -/
theorem ofText_eq_bind (text : String) (format : Document.Format) (checkSchema : Bool) :
    ofText text format checkSchema =
      (Document.parse format text).bind fun document => ofJson document checkSchema := rfl

/-- A text is rejected for issues that name no file. -/
theorem unlocated_of_ofText {text : String} {format : Document.Format} {checkSchema : Bool}
    {issues : List Issue} (failed : ofText text format checkSchema = .error issues) :
    ∀ issue ∈ issues, issue.Unlocated := by
  rw [ofText_eq_bind] at failed
  cases parsed : Document.parse format text with
  | error parseIssues =>
      rw [parsed] at failed
      cases failed
      exact Document.unlocated_of_parse parsed
  | ok document =>
      rw [parsed] at failed
      exact unlocated_of_ofJson failed

end Workflow

/-! ## Objects on one line -/

namespace Json

/-- The characters that the value writes on one line are read back as the value. -/
def ReadsBack (value : Json) : Prop :=
  (Reader.document ⟨value.compactChars, 0, nestingLimit⟩).1.map normalize = .ok value

instance (value : Json) : Decidable value.ReadsBack :=
  inferInstanceAs (Decidable (_ = _))

theorem ReadsBack.parse_compact {value : Json} (readsBack : value.ReadsBack) :
    parse value.compact = .ok value := by
  rw [compact, parse_ofList]
  exact readsBack

end Json

/-- An object on one line starts with a brace, so it is taken for JSON. -/
theorem Document.parse_auto_compact {document : Json} (readsBack : document.ReadsBack)
    (object : document.IsObject) : parse .auto document.compact = .ok document := by
  have braced : looksLikeJson document.compact = true := by
    obtain ⟨members, rfl⟩ := object
    rw [looksLikeJson, Json.compact, String.toList_ofList]
    cases members <;> rfl
  rw [parse, if_pos braced, parseJson, readsBack.parse_compact]
  rfl

/-! ## Loading -/

namespace WorkflowFile

/-- The workflow of a file, if it holds one. -/
def workflow? (file : String) (content : FileContent) :
    Except (List Issue) (Option Workflow) :=
  (load file content).map LoadedWorkflow.workflow?

/-- The text writes no workflow: it is blank, or writes null in the format. -/
def IsVacant (format : Document.Format) (text : String) : Prop :=
  Text.trim text = "" ∨ Document.parse format text = .ok .null

variable {file text : String}

theorem workflow?_of_vacant (vacant : IsVacant (format file) text) :
    workflow? file (.ok text) = .ok none := by
  rw [workflow?, load]
  split
  next => rfl
  next notBlank =>
    rcases vacant with blank | null
    · exact absurd ((Text.isBlank_iff_trim_eq text).mpr blank) notBlank
    · rw [null]
      rfl

/-- A file whose text writes something is loaded as its text is read. -/
theorem workflow?_of_not_vacant (occupied : ¬IsVacant (format file) text) :
    workflow? file (.ok text) =
      ((Workflow.ofText text (format file) true).map some).mapError
        (List.map (relate file)) := by
  obtain ⟨notBlank, notNull⟩ := not_or.mp occupied
  rw [workflow?, load, if_neg (mt (Text.isBlank_iff_trim_eq text).mp notBlank),
    Workflow.ofText_eq_bind]
  cases parsed : Document.parse (format file) text with
  | error issues => rfl
  | ok document =>
      have written : document ≠ .null := by
        rintro rfl
        exact notNull parsed
      change ((ofDocument document).mapError _).map _ = _
      rw [ofDocument, if_neg written]
      change _ = ((Workflow.ofJson document true).map some).mapError _
      cases Workflow.ofJson document true <;> rfl

/-- A file whose text writes a document is loaded as the document is read. -/
theorem workflow?_of_parse {document : Json} (visible : Text.isBlank text = false)
    (parsed : Document.parse (format file) text = .ok document) (written : document ≠ .null) :
    workflow? file (.ok text) =
      ((Workflow.ofJson document true).map some).mapError (List.map (relate file)) := by
  have occupied : ¬IsVacant (format file) text := by
    rintro (blank | null)
    · rw [(Text.isBlank_iff_trim_eq text).mpr blank] at visible
      contradiction
    · rw [parsed] at null
      exact written (Except.ok.inj null)
  rw [workflow?_of_not_vacant occupied, Workflow.ofText_eq_bind, parsed]
  rfl

/-- A file whose name tells no format and whose text writes an object on one line is loaded
as the object is read. -/
theorem workflow?_of_compact {document : Json} (auto : format file = .auto)
    (readsBack : document.ReadsBack) (object : document.IsObject) :
    workflow? file (.ok document.compact) =
      ((Workflow.ofJson document true).map some).mapError (List.map (relate file)) := by
  have parsed : Document.parse (format file) document.compact = .ok document := by
    rw [auto]
    exact Document.parse_auto_compact readsBack object
  have visible : Text.isBlank document.compact = false :=
    Json.isBlank_of_parse readsBack.parse_compact
  have written : document ≠ .null := by
    rintro rfl
    obtain ⟨members, same⟩ := object
    contradiction
  exact workflow?_of_parse visible parsed written

/-- A file holds no workflow exactly when it is vacant. -/
theorem workflow?_eq_none_iff :
    workflow? file (.ok text) = .ok none ↔ IsVacant (format file) text := by
  constructor
  · intro empty
    by_contra occupied
    rw [workflow?_of_not_vacant occupied] at empty
    cases read : Workflow.ofText text (format file) true <;>
      simp [read, Except.map, Except.mapError] at empty
  · exact workflow?_of_vacant

theorem workflow?_eq_some_iff (occupied : ¬IsVacant (format file) text) (workflow : Workflow) :
    workflow? file (.ok text) = .ok (some workflow) ↔
      Workflow.ofText text (format file) true = .ok workflow := by
  rw [workflow?_of_not_vacant occupied]
  cases Workflow.ofText text (format file) true <;> simp [Except.map, Except.mapError]

/-- A file fails for the issues of its text, which then name the file too. -/
theorem workflow?_eq_error_iff (occupied : ¬IsVacant (format file) text)
    (located : List Issue) :
    workflow? file (.ok text) = .error located ↔
      ∃ issues, Workflow.ofText text (format file) true = .error issues ∧
        List.Forall₂ (Issue.Locates file) issues located := by
  rw [workflow?_of_not_vacant occupied]
  cases read : Workflow.ofText text (format file) true with
  | ok workflow => simp [Except.map, Except.mapError]
  | error issues =>
      have unlocated := Workflow.unlocated_of_ofText read
      simp [Except.map, Except.mapError, Issue.forall₂_locates_iff unlocated, eq_comm]

/-- Loading a file agrees with reading its text in the format that its name tells, and every
name tells one.  A file holds no workflow exactly when its text is blank or writes null;
otherwise it holds the workflow of its text, or fails as the text does, with the same
issues that also name the file.  A file that cannot be read fails with one issue, which
names the file too. -/
theorem workflow?_agrees (file : String) :
    (∃! format, Tells file format) ∧
    (∀ format, Tells file format → ∀ text,
      (workflow? file (.ok text) = .ok none ↔
        Text.trim text = "" ∨ Document.parse format text = .ok .null) ∧
      (¬(Text.trim text = "" ∨ Document.parse format text = .ok .null) →
        (∀ workflow, workflow? file (.ok text) = .ok (some workflow) ↔
          Workflow.ofText text format true = .ok workflow) ∧
        ∀ located, workflow? file (.ok text) = .error located ↔
          ∃ issues, Workflow.ofText text format true = .error issues ∧
            List.Forall₂ (Issue.Locates file) issues located)) ∧
    ∀ error, ∃ issue, workflow? file (.error error) = .error [issue] ∧
      issue.related?.bind (Json.member? "file") = some (.string file) := by
  refine ⟨⟨format file, tells_format file, fun other tells => (tells_iff.mp tells).symm⟩, ?_,
    fun error => ⟨_, rfl, rfl⟩⟩
  intro told tells text
  obtain rfl := tells_iff.mp tells
  refine ⟨workflow?_eq_none_iff, fun occupied => ?_⟩
  exact ⟨workflow?_eq_some_iff occupied, workflow?_eq_error_iff occupied⟩

/-- The issue of a text that starts like a word where JSON is expected. -/
def wordIssue : Issue :=
  .withRelated
    (.error "parse_error" .root "json parse failed: expected ident at line 1 column 2"
      "json.parse_error")
    (.object [("column", .ofNat 2), ("line", .ofNat 1)])

/-- Where the name tells JSON, a text of YAML fails at a line and a column, which the issue
of the file keeps beside the name. -/
theorem workflow?_agrees_json :
    let file := "flows/login.json"
    let located := wordIssue.withRelated
      (.object [("column", .ofNat 2), ("file", .string file), ("line", .ofNat 1)])
    Tells file .json ∧ Workflow.ofText "title: Log in" .json true = .error [wordIssue] ∧
      wordIssue.Locates file located ∧
      workflow? file (.ok "title: Log in") = .error [located] := by
  intro file located
  have tells : Tells file .json := tells_iff.mpr (by decide)
  have occupied : ¬(Text.trim "title: Log in" = "" ∨
      Document.parse .json "title: Log in" = .ok .null) := by decide +kernel
  have read : Workflow.ofText "title: Log in" .json true = .error [wordIssue] := by
    decide +kernel
  have locates : wordIssue.Locates file located :=
    Issue.locates_relate (Workflow.unlocated_of_ofText read wordIssue (List.mem_singleton_self _))
  refine ⟨tells, read, locates, ?_⟩
  obtain ⟨-, agrees, -⟩ := workflow?_agrees file
  obtain ⟨-, fails⟩ := (agrees .json tells "title: Log in").2 occupied
  exact (fails [located]).mpr ⟨[wordIssue], read, .cons locates .nil⟩

end WorkflowFile

end WorkflowEditor
