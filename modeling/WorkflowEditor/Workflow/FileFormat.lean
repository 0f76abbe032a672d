import WorkflowEditor.Document

/-!
# The format of a file

The format of a file follows from the extension of its name.  Slashes and single dots at the
end of the name count for nothing, and a dot at the start of its last piece begins no
extension.  `WorkflowFile.tells_iff` says which names tell which format.
-/

namespace WorkflowEditor

namespace WorkflowFile

/-! ## Pieces of a name -/

/-- Whether a piece between slashes names something; an empty piece and a single dot name
nothing new. -/
def isNaming (piece : List Char) : Bool := piece ≠ [] && piece ≠ ['.']

/-- The pieces of a name between slashes, as far as they name something. -/
def pieces (file : String) : List (List Char) := (file.toList.splitOn '/').filter isNaming

/-- What stands behind the last dot of a piece; all of it if there is no dot. -/
def afterLastDot (piece : List Char) : List Char := (piece.reverse.takeWhile (· ≠ '.')).reverse

/-- What stands behind the last dot of a piece, if something stands before it. -/
def extensionOfPiece? (piece : List Char) : Option String :=
  let after := afterLastDot piece
  if after.length + 1 < piece.length then some (String.ofList after) else none

/-- The extension of a name; two dots lead to the folder outside and have none. -/
def extension? (file : String) : Option String :=
  (pieces file).getLast?.bind fun piece =>
    if piece = ['.', '.'] then none else extensionOfPiece? piece

/-- The format of a file. -/
def format (file : String) : Document.Format :=
  match extension? file with
  | some "json" => .json
  | some "yaml" | some "yml" => .yaml
  | _ => .auto

/-! ## Names with an extension -/

/-- The name is made of the pieces, with slashes between them. -/
def IsMadeOf (file : String) (pieces : List String) : Prop :=
  file = "/".intercalate pieces ∧ ∀ piece ∈ pieces, '/' ∉ piece.toList

/-- The last piece that names something is a stem, a dot and the extension. -/
def HasExtension (file extension : String) : Prop :=
  '.' ∉ extension.toList ∧ ∃ folders stem trailing,
    IsMadeOf file (folders ++ (stem ++ "." ++ extension) :: trailing) ∧ stem ≠ "" ∧
      ∀ piece ∈ trailing, piece = "" ∨ piece = "."

/-- The extensions that tell a format. -/
def knownExtensions : List String := ["json", "yaml", "yml"]

/-- The format that the name of a file tells: JSON or YAML by the extension, and no
particular one without an extension or with another. -/
inductive Tells (file : String) : Document.Format → Prop where
  | json (named : HasExtension file "json") : Tells file .json
  | yaml (named : HasExtension file "yaml" ∨ HasExtension file "yml") : Tells file .yaml
  | auto (unnamed : ∀ extension ∈ knownExtensions, ¬HasExtension file extension) :
      Tells file .auto

variable {file extension : String}

/-! ## Taking a name apart -/

/-- No piece holds a slash. -/
theorem slash_not_mem_of_mem_splitOn {chars piece : List Char}
    (member : piece ∈ chars.splitOn '/') : '/' ∉ piece := by
  rw [List.splitOn] at member
  induction chars generalizing piece with
  | nil =>
      rw [List.splitOnP_nil, List.mem_singleton] at member
      subst member
      exact List.not_mem_nil
  | cons char rest ih =>
      rw [List.splitOnP_cons_eq_if_modifyHead] at member
      split at member
      next =>
          rcases List.mem_cons.mp member with rfl | behind
          · exact List.not_mem_nil
          · exact ih behind
      next different =>
          obtain ⟨first, others, pieces⟩ :=
            List.exists_cons_of_ne_nil (List.splitOnP_ne_nil (· == '/') rest)
          rw [pieces] at ih member
          rw [List.modifyHead_cons] at member
          rcases List.mem_cons.mp member with rfl | behind
          · rw [List.mem_cons, not_or]
            exact ⟨fun slash => different (beq_iff_eq.mpr slash.symm), ih List.mem_cons_self⟩
          · exact ih (List.mem_cons_of_mem first behind)

/-- A name is taken apart at its slashes into the pieces that it is made of. -/
theorem isMadeOf_iff {pieces : List String} (some : pieces ≠ []) :
    IsMadeOf file pieces ↔ file.toList.splitOn '/' = pieces.map String.toList := by
  have joined : ("/".intercalate pieces).toList = ['/'].intercalate (pieces.map String.toList) :=
    String.toList_intercalate
  constructor
  · rintro ⟨rfl, slashless⟩
    rw [joined]
    exact List.splitOn_intercalate '/' (by simpa using slashless) (by simpa using some)
  · intro split
    constructor
    · apply String.toList_inj.mp
      rw [joined, ← split, List.intercalate_splitOn]
    · intro piece member
      have inSplit : piece.toList ∈ file.toList.splitOn '/' := by
        rw [split]
        exact List.mem_map_of_mem member
      exact slash_not_mem_of_mem_splitOn inSplit

theorem dot_not_mem_afterLastDot (piece : List Char) : '.' ∉ afterLastDot piece := by
  have dotless := List.all_takeWhile (p := (· ≠ '.')) (l := piece.reverse)
  rw [afterLastDot, List.mem_reverse]
  intro member
  simpa using List.all_eq_true.mp dotless '.' member

theorem afterLastDot_append {stem after : List Char} (dotless : '.' ∉ after) :
    afterLastDot (stem ++ '.' :: after) = after := by
  have passes : ∀ char ∈ after.reverse, decide (char ≠ '.') = true := by
    intro char member
    apply decide_eq_true
    rintro rfl
    exact dotless (List.mem_reverse.mp member)
  rw [afterLastDot, List.reverse_append, List.reverse_cons, List.append_assoc,
    List.takeWhile_append_of_pos passes]
  simp

/-- Unless all of a piece stands behind the last dot, there is one. -/
theorem exists_eq_append_afterLastDot {piece : List Char}
    (shorter : (afterLastDot piece).length < piece.length) :
    ∃ stem, piece = stem ++ '.' :: afterLastDot piece := by
  have parts := List.takeWhile_append_dropWhile (p := (· ≠ '.')) (l := piece.reverse)
  have stops := List.head?_dropWhile_not (· ≠ '.') piece.reverse
  have whole : piece = (piece.reverse.dropWhile (· ≠ '.')).reverse ++ afterLastDot piece := by
    rw [afterLastDot, ← List.reverse_append, parts, List.reverse_reverse]
  cases before : piece.reverse.dropWhile (· ≠ '.') with
  | nil =>
      rw [before, List.reverse_nil, List.nil_append] at whole
      exact absurd (congrArg List.length whole).symm (Nat.ne_of_lt shorter)
  | cons dot stem =>
      -- what the taking stopped at is the dot, and the stem stands before it
      rw [before] at stops whole
      obtain rfl : dot = '.' := by simpa using stops
      refine ⟨stem.reverse, ?_⟩
      rw [List.reverse_cons, List.append_assoc] at whole
      exact whole

/-- A piece has an extension behind its last dot, if that is not its first character. -/
theorem extensionOfPiece?_eq_some_iff {piece : List Char} :
    extensionOfPiece? piece = some extension ↔
      '.' ∉ extension.toList ∧ ∃ stem, stem ≠ [] ∧ piece = stem ++ '.' :: extension.toList := by
  rw [extensionOfPiece?]
  constructor
  · intro found
    obtain ⟨long, same⟩ := Option.ite_none_right_eq_some.mp found
    cases same
    rw [String.toList_ofList]
    obtain ⟨stem, parts⟩ := exists_eq_append_afterLastDot (Nat.lt_of_succ_lt long)
    refine ⟨dot_not_mem_afterLastDot piece, stem, ?_, parts⟩
    rintro rfl
    have lengths := congrArg List.length parts
    rw [List.nil_append, List.length_cons] at lengths
    omega
  · rintro ⟨dotless, stem, filled, rfl⟩
    have long : extension.toList.length + 1 < (stem ++ '.' :: extension.toList).length := by
      have started := List.length_pos_iff.mpr filled
      rw [List.length_append, List.length_cons]
      omega
    rw [afterLastDot_append dotless, if_pos long, String.ofList_toList]

theorem isNaming_eq_false_iff {piece : String} :
    isNaming piece.toList = false ↔ piece = "" ∨ piece = "." := by
  have named : piece.toList = ['.'] ↔ piece = "." := by
    rw [← String.toList_inj]
    rfl
  simp [isNaming, named, Decidable.imp_iff_not_or]

/-- The last piece that names something has behind it only pieces that name nothing. -/
theorem getLast?_pieces_eq_some_iff {piece : List Char} :
    (pieces file).getLast? = some piece ↔
      isNaming piece = true ∧ ∃ before after,
        file.toList.splitOn '/' = before ++ piece :: after ∧
          ∀ other ∈ after, isNaming other = false := by
  rw [pieces, List.getLast?_filter, List.find?_eq_some_iff_append]
  apply and_congr_right
  intro _
  constructor
  · rintro ⟨behind, ahead, reversed, silent⟩
    refine ⟨ahead.reverse, behind.reverse, ?_, ?_⟩
    · rw [← List.reverse_reverse (file.toList.splitOn '/'), reversed]
      simp
    · simpa using silent
  · rintro ⟨before, after, split, silent⟩
    refine ⟨after.reverse, before.reverse, ?_, ?_⟩
    · rw [split]
      simp
    · simpa using silent

/-- The extension of a name stands behind a stem in the last piece that names something. -/
theorem extension?_eq_some_iff (filled : extension ≠ "") :
    extension? file = some extension ↔ HasExtension file extension := by
  rw [extension?, Option.bind_eq_some_iff]
  constructor
  · rintro ⟨piece, last, found⟩
    obtain ⟨-, before, after, split, silent⟩ := getLast?_pieces_eq_some_iff.mp last
    obtain ⟨-, found⟩ := Option.ite_none_left_eq_some.mp found
    obtain ⟨dotless, stem, stemFilled, rfl⟩ := extensionOfPiece?_eq_some_iff.mp found
    refine ⟨dotless, before.map String.ofList, String.ofList stem, after.map String.ofList,
      (isMadeOf_iff (by simp)).mpr ?_, ?_, ?_⟩
    · rw [split]
      simp [Function.comp_def]
    · simpa using stemFilled
    · intro piece member
      obtain ⟨other, inAfter, rfl⟩ := List.mem_map.mp member
      rw [← isNaming_eq_false_iff, String.toList_ofList]
      exact silent other inAfter
  · rintro ⟨dotless, folders, stem, trailing, made, stemFilled, silent⟩
    have split := (isMadeOf_iff (by simp)).mp made
    have spelled : (stem ++ "." ++ extension).toList = stem.toList ++ '.' :: extension.toList := by
      simp
    rw [List.map_append, List.map_cons, spelled] at split
    have started : stem.toList ≠ [] := by simpa using stemFilled
    have long : ∀ short : List Char, short.length ≤ 2 →
        stem.toList ++ '.' :: extension.toList ≠ short := by
      rintro _ atMost rfl
      have stemLength := List.length_pos_iff.mpr started
      have extensionLength : 0 < extension.toList.length := by
        rw [List.length_pos_iff]
        simpa using filled
      rw [List.length_append, List.length_cons] at atMost
      omega
    refine ⟨_, getLast?_pieces_eq_some_iff.mpr ⟨?_, _, _, split, ?_⟩, ?_⟩
    · simp [isNaming, long]
    · intro other member
      obtain ⟨piece, inTrailing, rfl⟩ := List.mem_map.mp member
      exact isNaming_eq_false_iff.mpr (silent piece inTrailing)
    · rw [if_neg (long ['.', '.'] (by decide))]
      exact extensionOfPiece?_eq_some_iff.mpr ⟨dotless, stem.toList, started, rfl⟩

/-! ## Names and formats -/

theorem hasExtension_iff_of_mem (known : extension ∈ knownExtensions) :
    HasExtension file extension ↔ extension? file = some extension := by
  refine (extension?_eq_some_iff ?_).symm
  rintro rfl
  contradiction

theorem tells_format (file : String) : Tells file (format file) := by
  have named : ∀ {extension}, extension ∈ knownExtensions → extension? file = some extension →
      HasExtension file extension := fun known => (hasExtension_iff_of_mem known).mpr
  rw [format]
  split
  next json => exact .json (named (by decide) json)
  next yaml => exact .yaml (.inl (named (by decide) yaml))
  next yml => exact .yaml (.inr (named (by decide) yml))
  next noJson noYaml noYml =>
      apply Tells.auto
      intro extension known found
      have holds := (hasExtension_iff_of_mem known).mp found
      simp only [knownExtensions, List.mem_cons, List.not_mem_nil, or_false] at known
      rcases known with rfl | rfl | rfl
      · exact noJson holds
      · exact noYaml holds
      · exact noYml holds

theorem Tells.format_eq {format : Document.Format} (tells : Tells file format) :
    WorkflowFile.format file = format := by
  have named : ∀ {extension}, extension ∈ knownExtensions → HasExtension file extension →
      extension? file = some extension := fun known => (hasExtension_iff_of_mem known).mp
  cases tells with
  | json found =>
      rw [WorkflowFile.format, named (by decide) found]
      rfl
  | yaml found =>
      rcases found with yaml | yml
      · rw [WorkflowFile.format, named (by decide) yaml]
        rfl
      · rw [WorkflowFile.format, named (by decide) yml]
        rfl
  | auto unnamed =>
      have told := tells_format file
      generalize WorkflowFile.format file = other at told ⊢
      cases told with
      | json found => exact absurd found (unnamed _ (by decide))
      | yaml found =>
          rcases found with yaml | yml
          · exact absurd yaml (unnamed _ (by decide))
          · exact absurd yml (unnamed _ (by decide))
      | auto => rfl

/-- Every name tells one format. -/
theorem tells_iff {format : Document.Format} :
    Tells file format ↔ WorkflowFile.format file = format := by
  constructor
  · exact Tells.format_eq
  · rintro rfl
    exact tells_format file

/-- Slashes and dots behind a name change nothing, two dots lead out of what was named, and
a name that starts with its only dot has no extension. -/
example : format "flows/flow.tar.json/./" = .json ∧ format "flow.json/.." = .auto ∧
    format ".json" = .auto := by decide

end WorkflowFile

end WorkflowEditor
