import WorkflowEditor.Issue.Basic
import WorkflowEditor.Json.Parser
import WorkflowEditor.Text.Blank
import WorkflowEditor.Yaml.Document

/-!
# Documents

The text of a document is JSON or YAML.  Without a word about its format, a text
that starts with a brace or a bracket is taken for JSON.
-/

namespace WorkflowEditor

namespace Document

/-- The format of a document. -/
inductive Format where
  | auto
  | json
  | yaml
  deriving DecidableEq, Repr

/-- Whether a text starts like a JSON object or array. -/
def looksLikeJson (text : String) : Bool :=
  match Text.trimStart text.toList with
  | '\x7b' :: _ | '[' :: _ => true
  | _ => false

/-- The value that a JSON text writes. -/
def parseJson (text : String) : Except (List Issue) Json :=
  (Json.parse text).mapError fun error =>
    let position := error.position text
    [.withRelated
      (.error "parse_error" .root ("json parse failed: " ++ error.message text)
        "json.parse_error")
      (.record [("line", .ofNat position.line), ("column", .ofNat position.column)])]

/-- Whether the characters hold the word somewhere. -/
def holdsWord (word : List Char) : List Char → Bool
  | [] => word.isEmpty
  | char :: rest => word.isPrefixOf (char :: rest) || holdsWord word rest

/-- Whether a text holds the word `duplicate`, in upper or lower case. -/
def mentionsDuplicate (text : String) : Bool :=
  holdsWord "duplicate".toList (text.toList.map Char.toLower)

/-- The issue of a YAML text that cannot be read.  It refers to repeated keys
whenever its wording does. -/
def yamlIssue (error : Yaml.ParseError) : Issue :=
  let message := error.message
  .error "parse_error" .root ("yaml parse failed: " ++ message)
    (if mentionsDuplicate message then "yaml.duplicate_key" else "yaml.parse_error")

/-- The issue of a YAML value that has no JSON form. -/
def conversionIssue (error : Yaml.ConversionError) : Issue :=
  .error "parse_error" .root ("yaml-to-json conversion failed: " ++ error.message)
    "yaml.to_json_error"

/-- The value that a YAML text writes. -/
def parseYaml (text : String) : Except (List Issue) Json := do
  let tree ← (Yaml.parse text).mapError fun error => [yamlIssue error]
  tree.toJson.mapError fun error => [conversionIssue error]

/-- The value that a text of the format writes. -/
def parse (format : Format) (text : String) : Except (List Issue) Json :=
  match format with
  | .json => parseJson text
  | .yaml => parseYaml text
  | .auto => if looksLikeJson text then parseJson text else parseYaml text

/-! ## Documents that are read -/

theorem eq_ok_of_mapError {ε δ α : Type} {outcome : Except ε α} {report : ε → δ} {value : α}
    (succeeded : outcome.mapError report = .ok value) : outcome = .ok value := by
  cases outcome with
  | error error => contradiction
  | ok found =>
      cases succeeded
      rfl

/-- A text that is accepted has been read as a tree with a JSON value. -/
theorem tree_of_parseYaml {text : String} {value : Json} (accepted : parseYaml text = .ok value) :
    ∃ tree, Yaml.parse text = .ok tree ∧ tree.toJson = .ok value := by
  rw [parseYaml] at accepted
  cases parsed : Yaml.parse text with
  | error error =>
      rw [parsed] at accepted
      contradiction
  | ok tree =>
      rw [parsed] at accepted
      exact ⟨tree, rfl, eq_ok_of_mapError accepted⟩

theorem wellFormed_of_parseJson {text : String} {document : Json}
    (accepted : parseJson text = .ok document) : document.WellFormed :=
  Json.wellFormed_of_parse (eq_ok_of_mapError accepted)

theorem wellFormed_of_parseYaml {text : String} {document : Json}
    (accepted : parseYaml text = .ok document) : document.WellFormed := by
  obtain ⟨tree, -, converted⟩ := tree_of_parseYaml accepted
  exact Yaml.Tree.wellFormed_of_toJson converted

/-- The document that a text writes is well-formed, whatever its format. -/
theorem wellFormed_of_parse {format : Format} {text : String} {document : Json}
    (accepted : parse format text = .ok document) : document.WellFormed := by
  cases format with
  | json => exact wellFormed_of_parseJson accepted
  | yaml => exact wellFormed_of_parseYaml accepted
  | auto =>
      rw [parse] at accepted
      split at accepted
      · exact wellFormed_of_parseJson accepted
      · exact wellFormed_of_parseYaml accepted

end Document

end WorkflowEditor
