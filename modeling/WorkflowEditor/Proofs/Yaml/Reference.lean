import WorkflowEditor.Proofs.Text.Mention

/-!
# What a failure of YAML refers to

A YAML text that cannot be read is reported by one issue, which refers to repeated
keys whenever its wording holds the word `duplicate`.  The wording of a repeated key
always does.  It also does where a directive is given twice, and where the text of the
document brings the word in: a scalar that cannot be read, or a key above it.  No
other wording does (`Yaml.ParseError.mentions_message_iff`), so the reference is right
exactly when the failure does not mislead in this way
(`Document.parseYaml_reference_iff`).
-/

namespace WorkflowEditor

open Document (Mentions mentions_append_cons_iff mentions_append_blank_iff mentions_cons_iff
  mentions_quoted_iff not_mentions_of_digits)

namespace Yaml

/-! ## Failures -/

/-- The failure is that a mapping has one key twice. -/
def ParseError.RepeatsKey (error : ParseError) : Prop :=
  ∃ key path place, error = .node (.duplicateKey key) path place

/-- The failure is another one, but its wording holds the word all the same. -/
inductive ParseError.Misleads : ParseError → Prop where
  /-- A directive is given twice. -/
  | directive {problem : Problem} (place : Mark) (inside? : Option (Activity × Mark))
      (given : problem = .duplicateVersion ∨ problem = .duplicateTagDirective) :
      Misleads (.syntaxError (.misplaced problem place inside?))
  /-- A scalar cannot be read, and a key above it has the word. -/
  | key (fault : ScalarFault) {path : Path} (place : Mark) {key : List Char}
      (above : .entry key ∈ path) (mentions : Mentions key) :
      Misleads (.node (.scalar fault) path place)
  /-- A scalar with the word is not of the kind that its tag asks for. -/
  | scalar {text : String} (kind : ScalarKind) (path : Path) (place : Mark)
      (mentions : Mentions text.toList) :
      Misleads (.node (.scalar (.notOfKind text kind)) path place)

theorem ParseError.Misleads.not_repeatsKey {error : ParseError} (misleads : error.Misleads) :
    ¬error.RepeatsKey := by
  rintro ⟨key, path, place, rfl⟩
  cases misleads

/-! ## Pieces of wordings -/

section Pieces

variable {left right : List Char}

theorem not_mentions_natural (value : Nat) : ¬Mentions (toString value).toList := by
  apply not_mentions_of_digits
  intro char member
  rw [Nat.toString_eq_repr, Nat.toList_repr] at member
  exact Nat.isDigit_of_mem_toDigits (by decide) (by decide) member

theorem not_mentions_integer (value : Int) : ¬Mentions (toString value).toList := by
  cases value with
  | ofNat value => exact not_mentions_natural value
  | negSucc value =>
      change ¬Mentions ("-" ++ toString (value + 1)).toList
      rw [String.toList_append]
      exact mt (mentions_cons_iff (by decide)).mp (not_mentions_natural _)

/-- Naming a place does not bring the word in. -/
theorem mentions_append_describe_iff (place : Mark) :
    Mentions (left ++ place.describe.toList) ↔ Mentions left := by
  have spelled : place.describe.toList =
      ' ' :: ("at line".toList ++ ' ' :: ((toString (place.line + 1)).toList ++
        ' ' :: ("column".toList ++ ' ' :: (toString (place.column + 1)).toList))) := by
    simp only [Mark.describe, String.toList_append, List.append_assoc]
    rfl
  have words : ¬Mentions "at line".toList ∧ ¬Mentions "column".toList := by decide
  have numbers := not_mentions_natural
  rw [spelled]
  simp only [mentions_append_blank_iff, words, numbers, or_false]

theorem mentions_append_placeSuffix_iff (place : Mark) :
    Mentions (left ++ (placeSuffix place).toList) ↔ Mentions left := by
  rw [placeSuffix]
  split
  next => rw [String.toList_empty, List.append_nil]
  next => exact mentions_append_describe_iff place

end Pieces

/-! ## Syntax errors -/

theorem Activity.not_mentions_message (activity : Activity) :
    ¬Mentions activity.message.toList := by
  cases activity <;> decide +kernel

theorem Problem.mentions_message_iff (problem : Problem) :
    Mentions problem.message.toList ↔
      problem = .duplicateVersion ∨ problem = .duplicateTagDirective := by
  cases problem <;> decide +kernel

theorem SyntaxError.not_mentions_forbiddenCharacter (offset : Nat) :
    ¬Mentions (SyntaxError.forbiddenCharacter offset).message.toList := by
  have words : ¬Mentions "control characters are not allowed".toList ∧
      ¬Mentions "at position".toList := by decide
  change ¬Mentions ("control characters are not allowed" ++
    if offset = 0 then "" else s!" at position {offset}").toList
  split
  next => exact words.1
  next =>
      have spelled : s!" at position {offset}".toList =
          ' ' :: ("at position".toList ++ ' ' :: (toString offset).toList) := by
        simp only [String.toList_append]
        rfl
      rw [String.toList_append, spelled]
      simp only [mentions_append_blank_iff, words,
        not_mentions_natural, or_false, not_false_eq_true]

/-- What else a syntax error names does not bring the word in. -/
theorem SyntaxError.mentions_misplaced_iff (problem : Problem) (place : Mark)
    (inside? : Option (Activity × Mark)) :
    Mentions (SyntaxError.misplaced problem place inside?).message.toList ↔
      Mentions problem.message.toList := by
  have placed : Mentions (problem.message.toList ++ (placeSuffix place).toList) ↔
      Mentions problem.message.toList :=
    mentions_append_placeSuffix_iff place
  cases inside? with
  | none =>
      have spelled : (SyntaxError.misplaced problem place none).message.toList =
          problem.message.toList ++ (placeSuffix place).toList := by
        change (problem.message ++ placeSuffix place ++ "").toList = _
        rw [String.append_empty, String.toList_append]
      rw [spelled, placed]
  | some entry =>
      obtain ⟨activity, start⟩ := entry
      let suffix := if start.isStart || start.samePlace place then "" else start.describe
      have spelled : (SyntaxError.misplaced problem place (some (activity, start))).message.toList =
          (problem.message.toList ++ (placeSuffix place).toList) ++
            ',' :: ([] ++ ' ' :: (activity.message.toList ++ suffix.toList)) := by
        change (problem.message ++ placeSuffix place ++
          (", " ++ activity.message ++ suffix)).toList = _
        simp only [String.toList_append]
        rfl
      have silent : ¬Mentions (activity.message.toList ++ suffix.toList) := by
        dsimp only [suffix]
        split
        next =>
            rw [String.toList_empty, List.append_nil]
            exact activity.not_mentions_message
        next =>
            rw [mentions_append_describe_iff]
            exact activity.not_mentions_message
      have nothing : ¬Mentions [] := by decide
      rw [spelled, mentions_append_cons_iff (by decide), mentions_append_cons_iff (by decide),
        placed]
      simp only [nothing, silent, or_false]

/-! ## Nodes -/

/-- The words for a path mention the word exactly when a key on it does. -/
theorem mentions_describePath_iff (path : Path) :
    Mentions (describePath path).toList ↔ ∃ key, .entry key ∈ path ∧ Mentions key := by
  induction path with
  | nil =>
      have nothing : ¬Mentions ['.'] := by decide
      rw [describePath]
      simpa using nothing
  | cons step parent ih =>
      have behind : ∀ name : List Char,
          Mentions ((describePath.behind parent).toList ++ name) ↔
            Mentions (describePath parent).toList ∨ Mentions name := by
        intro name
        cases parent with
        | nil =>
            have nothing : ¬Mentions ".".toList := by decide
            rw [describePath.behind, describePath, String.toList_empty, List.nil_append,
              or_iff_right nothing]
        | cons first rest =>
            have spelled : (describePath.behind (first :: rest)).toList ++ name =
                (describePath (first :: rest)).toList ++ '.' :: name := by
              rw [describePath.behind, String.toList_append, List.append_assoc]
              · rfl
              · exact List.cons_ne_nil _ _
            rw [spelled, mentions_append_cons_iff (by decide)]
      have keys : (∃ key, .entry key ∈ step :: parent ∧ Mentions key) ↔
          (∃ key, step = .entry key ∧ Mentions key) ∨ Mentions (describePath parent).toList := by
        rw [ih]
        simp only [List.mem_cons, or_and_right, exists_or, eq_comm]
      rw [keys]
      cases step with
      | item position =>
          have spelled : (describePath (.item position :: parent)).toList =
              (describePath parent).toList ++ '[' :: ((toString position).toList ++ ']' :: []) := by
            rw [describePath]
            simp only [String.toList_append]
            rfl
          have nothing : ¬Mentions [] := by decide
          rw [spelled, mentions_append_cons_iff (by decide), mentions_append_cons_iff (by decide),
            or_iff_left (not_or.mpr ⟨not_mentions_natural position, nothing⟩)]
          simp
      | entry key =>
          rw [describePath, String.toList_append, String.toList_ofList, behind]
          simp [or_comm]
      | unknown =>
          have nothing : ¬Mentions "?".toList := by decide
          rw [describePath, String.toList_append, behind, or_iff_left nothing]
          simp

/-- A fault of a scalar mentions the word only in the text of the scalar. -/
theorem ScalarFault.mentions_message_iff (fault : ScalarFault) :
    Mentions fault.message.toList ↔
      ∃ text kind, fault = .notOfKind text kind ∧ Mentions text.toList := by
  cases fault with
  | notOfKind text kind =>
      have spelled : (ScalarFault.notOfKind text kind).message.toList =
          "invalid value: string".toList ++ ' ' :: ((Text.quoted text).toList ++
            ',' :: (" expected ".toList ++ kind.describe.toList)) := by
        have front : "invalid value: string ".toList =
            "invalid value: string".toList ++ [' '] := by decide
        have back : ", expected ".toList = ',' :: " expected ".toList := by decide
        change ("invalid value: string " ++ Text.quoted text ++ ", expected " ++
          kind.describe).toList = _
        simp only [String.toList_append, List.append_assoc, front, back, List.cons_append,
          List.nil_append]
      have words : ¬Mentions "invalid value: string".toList ∧
          ¬Mentions (" expected ".toList ++ kind.describe.toList) := by
        cases kind <;> decide
      rw [spelled, mentions_append_cons_iff (by decide), mentions_append_cons_iff (by decide),
        or_iff_right words.1, or_iff_left words.2, mentions_quoted_iff]
      constructor
      · intro mentions
        exact ⟨text, kind, rfl, mentions⟩
      · rintro ⟨_, _, ⟨⟩, mentions⟩
        exact mentions
  | integerTooLarge value =>
      let tail := " as " ++ (if value < 0 then "i128" else "u128") ++ ", expected any YAML value"
      have spelled : (ScalarFault.integerTooLarge value).message.toList =
          "invalid type: integer ".toList ++ '`' :: ((toString value).toList ++
            '`' :: tail.toList) := by
        have front : "invalid type: integer `".toList =
            "invalid type: integer ".toList ++ ['`'] := by decide
        have back : "` as ".toList = '`' :: " as ".toList := by decide
        change ("invalid type: integer `" ++ toString value ++ "` as " ++
          (if value < 0 then "i128" else "u128") ++ ", expected any YAML value").toList = _
        simp only [tail, String.toList_append, List.append_assoc, front, back,
          List.cons_append, List.nil_append]
      have words : ¬Mentions "invalid type: integer ".toList ∧ ¬Mentions tail.toList := by
        dsimp only [tail]
        split <;> decide
      rw [spelled, mentions_append_cons_iff (by decide), mentions_append_cons_iff (by decide),
        or_iff_right words.1, or_iff_left words.2]
      refine iff_of_false (not_mentions_integer value) ?_
      rintro ⟨_, _, ⟨⟩, -⟩

theorem NodeFault.mentions_message_duplicateKey (key : Tree) :
    Mentions (NodeFault.duplicateKey key).message.toList := by
  have spelled : (NodeFault.duplicateKey key).message.toList =
      "duplicate".toList ++ ' ' :: ("entry ".toList ++ (describeKey key).toList) := by
    change ("duplicate entry " ++ describeKey key).toList = _
    rw [String.toList_append]
    rfl
  rw [spelled, mentions_append_cons_iff (by decide)]
  exact Or.inl (by decide)

/-- The wording of a node's failure mentions the word in the path or in the fault. -/
theorem ParseError.mentions_node_iff (fault : NodeFault) (path : Path) (place : Mark) :
    Mentions (ParseError.node fault path place).message.toList ↔
      (∃ key, .entry key ∈ path ∧ Mentions key) ∨ Mentions fault.message.toList := by
  cases path with
  | nil =>
      have spelled : (ParseError.node fault [] place).message.toList =
          fault.message.toList ++ (placeSuffix place).toList := by
        change ("" ++ fault.message ++ placeSuffix place).toList = _
        rw [String.empty_append, String.toList_append]
      rw [spelled, mentions_append_placeSuffix_iff]
      simp
  | cons step parent =>
      have spelled : (ParseError.node fault (step :: parent) place).message.toList =
          ((describePath (step :: parent)).toList ++ ':' :: ([] ++ ' ' :: fault.message.toList)) ++
            (placeSuffix place).toList := by
        change (describePath (step :: parent) ++ ": " ++ fault.message ++
          placeSuffix place).toList = _
        simp only [String.toList_append, List.append_assoc]
        rfl
      have nothing : ¬Mentions [] := by decide
      rw [spelled, mentions_append_placeSuffix_iff, mentions_append_cons_iff (by decide),
        mentions_append_cons_iff (by decide), or_iff_right nothing, mentions_describePath_iff]

/-! ## Failures by their wording -/

/-- The wording of a failure holds the word exactly when the failure is a repeated key
or misleads. -/
theorem ParseError.mentions_message_iff (error : ParseError) :
    Mentions error.message.toList ↔ error.RepeatsKey ∨ error.Misleads := by
  cases error with
  | syntaxError error =>
      cases error with
      | forbiddenCharacter offset =>
          exact iff_of_false (SyntaxError.not_mentions_forbiddenCharacter offset)
            (not_or.mpr ⟨nofun, nofun⟩)
      | misplaced problem place inside? =>
          change Mentions (SyntaxError.misplaced problem place inside?).message.toList ↔ _
          rw [SyntaxError.mentions_misplaced_iff, problem.mentions_message_iff]
          constructor
          · intro given
            exact Or.inr (.directive place inside? given)
          · rintro (⟨_, _, _, ⟨⟩⟩ | ⟨_, _, given⟩)
            exact given
  | node fault path place =>
      rw [mentions_node_iff]
      cases fault with
      | duplicateKey key =>
          exact iff_of_true (Or.inr (NodeFault.mentions_message_duplicateKey key))
            (Or.inl ⟨key, path, place, rfl⟩)
      | scalar fault =>
          have wording : (NodeFault.scalar fault).message = fault.message := rfl
          rw [wording, ScalarFault.mentions_message_iff]
          constructor
          · rintro (⟨key, above, mentions⟩ | ⟨text, kind, rfl, mentions⟩)
            · exact Or.inr (.key fault place above mentions)
            · exact Or.inr (.scalar kind path place mentions)
          · rintro (⟨_, _, _, ⟨⟩⟩ | misleads)
            cases misleads with
            | key _ _ above mentions => exact Or.inl ⟨_, above, mentions⟩
            | scalar kind _ _ mentions => exact Or.inr ⟨_, kind, rfl, mentions⟩
  | unknownAnchor place =>
      have words : ¬Mentions "unknown anchor".toList := by decide
      change Mentions ("unknown anchor" ++ placeSuffix place).toList ↔ _
      rw [String.toList_append, mentions_append_placeSuffix_iff]
      exact iff_of_false words (not_or.mpr ⟨nofun, nofun⟩)
  | nestingTooDeep place =>
      have words : ¬Mentions "recursion limit exceeded".toList := by decide
      change Mentions ("recursion limit exceeded" ++ placeSuffix place).toList ↔ _
      rw [String.toList_append, mentions_append_placeSuffix_iff]
      exact iff_of_false words (not_or.mpr ⟨nofun, nofun⟩)
  | repetitionTooLong => exact iff_of_false (by decide) (not_or.mpr ⟨nofun, nofun⟩)
  | severalDocuments => exact iff_of_false (by decide +kernel) (not_or.mpr ⟨nofun, nofun⟩)

end Yaml

namespace Document

open Yaml (ParseError)

/-- A text that cannot be read is reported by the issue of its failure. -/
theorem parseYaml_of_error {text : String} {error : ParseError}
    (failed : Yaml.parse text = .error error) : parseYaml text = .error [yamlIssue error] := by
  rw [parseYaml, failed]
  rfl

/-- A text that cannot be read is reported by one issue.  It refers to a repeated key
exactly when the failure is one or misleads, and to a syntax error otherwise; so
failures are told apart exactly when they do not mislead. -/
theorem parseYaml_reference_iff {text : String} {error : ParseError}
    (failed : Yaml.parse text = .error error) :
    ∃ issue, parseYaml text = .error [issue] ∧
      (issue.reference? = some "yaml.duplicate_key" ↔ error.RepeatsKey ∨ error.Misleads) ∧
      (issue.reference? = some "yaml.parse_error" ↔ ¬(error.RepeatsKey ∨ error.Misleads)) ∧
      ((issue.reference? = some "yaml.duplicate_key" ↔ error.RepeatsKey) ↔ ¬error.Misleads) := by
  have held : mentionsDuplicate error.message = true ↔ error.RepeatsKey ∨ error.Misleads := by
    rw [mentionsDuplicate_iff, ParseError.mentions_message_iff]
  have apart : error.Misleads → ¬error.RepeatsKey := ParseError.Misleads.not_repeatsKey
  have reference : (yamlIssue error).reference? =
      some (if mentionsDuplicate error.message then "yaml.duplicate_key" else "yaml.parse_error") :=
    rfl
  refine ⟨yamlIssue error, parseYaml_of_error failed, ?_⟩
  -- what is left to show is about the error, whatever text it came from
  clear failed
  rw [reference]
  by_cases mentioned : mentionsDuplicate error.message = true
  · rw [if_pos mentioned]
    have cause := held.mp mentioned
    simp [cause]
    tauto
  · rw [if_neg mentioned]
    have cause := mt held.mpr mentioned
    simp [cause]
    tauto

/-! ## A failure that misleads -/

/-- A scalar that is no integer, under a key that has the word. -/
def misleadingText : String := "duplicate: !!int x"

/-- The text is rejected for a scalar, under a key that has the word. -/
def isMisledByKey : Except ParseError Yaml.Tree → Bool
  | .error (.node (.scalar _) [.entry key] _) => decide (Mentions key)
  | _ => false

theorem exists_misleads_of_isMisledByKey {outcome : Except ParseError Yaml.Tree}
    (misled : isMisledByKey outcome = true) :
    ∃ error, outcome = .error error ∧ error.Misleads := by
  unfold isMisledByKey at misled
  split at misled
  next fault key place =>
      have above : Yaml.PathStep.entry key ∈ [Yaml.PathStep.entry key] := List.mem_singleton_self _
      exact ⟨_, rfl, .key fault place above (of_decide_eq_true misled)⟩
  next => exact absurd misled Bool.false_ne_true

/-- The failure of the text is not a repeated key, but it misleads. -/
theorem misleads_misleadingText :
    ∃ error, Yaml.parse misleadingText = .error error ∧ error.Misleads :=
  exists_misleads_of_isMisledByKey (by decide +kernel)

/-- The misleading text is reported as one that repeats a key. -/
theorem parseYaml_reference_misleadingText :
    ∃ error issue, Yaml.parse misleadingText = .error error ∧ ¬error.RepeatsKey ∧
      parseYaml misleadingText = .error [issue] ∧
      issue.reference? = some "yaml.duplicate_key" := by
  obtain ⟨error, failed, misleads⟩ := misleads_misleadingText
  obtain ⟨issue, reported, told, -⟩ := parseYaml_reference_iff failed
  exact ⟨error, issue, failed, misleads.not_repeatsKey, reported, told.mpr (Or.inr misleads)⟩

/-- Not every failure is told apart from a repeated key. -/
theorem not_forall_told_apart :
    ¬∀ text error, Yaml.parse text = .error error →
      ∀ issue, parseYaml text = .error [issue] →
        (issue.reference? = some "yaml.duplicate_key" ↔ error.RepeatsKey) ∧
        (issue.reference? = some "yaml.parse_error" ↔ ¬error.RepeatsKey) := by
  intro toldApart
  obtain ⟨error, failed, misleads⟩ := misleads_misleadingText
  have held : mentionsDuplicate error.message = true :=
    mentionsDuplicate_iff.mpr (error.mentions_message_iff.mpr (Or.inr misleads))
  have reference : (yamlIssue error).reference? = some "yaml.duplicate_key" := by
    rw [yamlIssue, held]
    rfl
  have told := toldApart misleadingText error failed _ (parseYaml_of_error failed)
  exact misleads.not_repeatsKey (told.1.mp reference)

end Document

end WorkflowEditor
