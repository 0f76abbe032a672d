import Mathlib.Data.List.Basic
import WorkflowEditor.FieldPath.Pointer

/-!
# Reading back the pointer of a path

A pointer is taken apart at its slashes, empty pieces are dropped, the escapes of
every other piece are undone, and a piece that could be an index is taken for
one.  Escaping leaves no slash inside a piece, so reading back the pointer of a
path can be told step by step (`FieldPath.ofPointer_toPointer`).  What comes back
is the path itself when its steps are plain: its keys are neither empty nor
spelled like an index, and its indices are below the bound.
-/

namespace WorkflowEditor

namespace FieldPath

/-- The characters that a pointer writes for a step, behind its slash. -/
def piece : Segment → List Char
  | .key name => name.toList.flatMap escapeChar
  | .index position => Nat.toDigits 10 position

theorem pointerStep_eq (step : Segment) : pointerStep step = '/' :: piece step := by
  cases step <;> rfl

/-! ## Slashes -/

theorem slash_not_mem_escapeChar (char : Char) : '/' ∉ escapeChar char := by
  unfold escapeChar
  split
  next => decide
  next => decide
  next notSlash =>
      intro member
      exact notSlash (List.mem_singleton.mp member).symm

/-- No piece holds a slash. -/
theorem slash_not_mem_piece (step : Segment) : '/' ∉ piece step := by
  cases step with
  | key name =>
      intro member
      obtain ⟨char, -, escaped⟩ := List.mem_flatMap.mp member
      exact slash_not_mem_escapeChar char escaped
  | index position =>
      intro member
      have digit := Nat.isDigit_of_mem_toDigits (by decide) (by decide) member
      contradiction

theorem steps_slash (rest : List Char) : steps ('/' :: rest) = [] :: steps rest := rfl

/-- A character other than a slash belongs to the first piece. -/
theorem steps_cons_of_ne {char : Char} (different : char ≠ '/') {rest first : List Char}
    {others : List (List Char)} (split : steps rest = first :: others) :
    steps (char :: rest) = (char :: first) :: others := by
  rw [steps, split]
  exact different

/-- A piece without slashes is taken off in front of whatever begins with a
slash. -/
theorem steps_append {chars rest : List Char} (plain : '/' ∉ chars) :
    steps (chars ++ '/' :: rest) = chars :: steps rest := by
  induction chars with
  | nil => rfl
  | cons char chars ih =>
      have ⟨different, plainRest⟩ := List.ne_and_not_mem_of_not_mem_cons plain
      exact steps_cons_of_ne different.symm (ih plainRest)

theorem steps_of_not_mem {chars : List Char} (plain : '/' ∉ chars) : steps chars = [chars] := by
  induction chars with
  | nil => rfl
  | cons char chars ih =>
      have ⟨different, plainRest⟩ := List.ne_and_not_mem_of_not_mem_cons plain
      exact steps_cons_of_ne different.symm (ih plainRest)

/-- The pieces of a pointer are those of its steps, behind an empty one. -/
theorem steps_flatMap_pointerStep (segments : List Segment) :
    steps (segments.flatMap pointerStep) = [] :: segments.map piece := by
  suffices behind : ∀ chars, '/' ∉ chars →
      steps (chars ++ segments.flatMap pointerStep) = chars :: segments.map piece from
    behind [] List.not_mem_nil
  induction segments with
  | nil =>
      intro chars plain
      rw [List.flatMap_nil, List.append_nil]
      exact steps_of_not_mem plain
  | cons step rest ih =>
      intro chars plain
      rw [List.flatMap_cons, pointerStep_eq, List.cons_append, steps_append plain,
        ih _ (slash_not_mem_piece step), List.map_cons]

/-- Slashes in front only add empty pieces. -/
theorem filter_steps_dropWhile (chars : List Char) :
    (steps (chars.dropWhile (· == '/'))).filter (fun step => !step.isEmpty) =
      (steps chars).filter fun step => !step.isEmpty := by
  induction chars with
  | nil => rfl
  | cons char rest ih =>
      rw [List.dropWhile_cons]
      split
      next slash =>
          rw [beq_iff_eq] at slash
          subst slash
          rw [ih, steps_slash]
          rfl
      next => rfl

/-! ## Escapes -/

/-- Only a tilde starts an escape. -/
theorem replaceEscape_cons_of_ne {digit replacement char : Char} (different : char ≠ '~')
    (rest : List Char) :
    replaceEscape digit replacement (char :: rest) =
      char :: replaceEscape digit replacement rest := by
  rw [replaceEscape]
  intro _ _ tilde
  exact absurd tilde different

/-- The spelling of a character once the escape of slashes is undone. -/
def escapeTilde (char : Char) : List Char := if char = '~' then ['~', '0'] else [char]

theorem replaceEscape_slash (chars : List Char) :
    replaceEscape '1' '/' (chars.flatMap escapeChar) = chars.flatMap escapeTilde := by
  induction chars with
  | nil => rfl
  | cons char rest ih =>
      rw [List.flatMap_cons, List.flatMap_cons]
      by_cases tilde : char = '~'
      · subst tilde
        have zero : ('0' : Char) ≠ '~' := by decide
        calc replaceEscape '1' '/' ('~' :: '0' :: rest.flatMap escapeChar)
            = '~' :: replaceEscape '1' '/' ('0' :: rest.flatMap escapeChar) := rfl
          _ = '~' :: '0' :: rest.flatMap escapeTilde := by
              rw [replaceEscape_cons_of_ne zero, ih]
      · have spelledBack : escapeTilde char = [char] := if_neg tilde
        rw [spelledBack]
        by_cases slash : char = '/'
        · subst slash
          calc replaceEscape '1' '/' ('~' :: '1' :: rest.flatMap escapeChar)
              = '/' :: replaceEscape '1' '/' (rest.flatMap escapeChar) := rfl
            _ = '/' :: rest.flatMap escapeTilde := by rw [ih]
        · have spelled : escapeChar char = [char] := by
            unfold escapeChar
            split <;> first | contradiction | rfl
          rw [spelled, List.singleton_append, replaceEscape_cons_of_ne tilde, ih,
            List.singleton_append]

theorem replaceEscape_tilde (chars : List Char) :
    replaceEscape '0' '~' (chars.flatMap escapeTilde) = chars := by
  induction chars with
  | nil => rfl
  | cons char rest ih =>
      rw [List.flatMap_cons]
      by_cases tilde : char = '~'
      · subst tilde
        calc replaceEscape '0' '~' ('~' :: '0' :: rest.flatMap escapeTilde)
            = '~' :: replaceEscape '0' '~' (rest.flatMap escapeTilde) := rfl
          _ = '~' :: rest := by rw [ih]
      · have spelled : escapeTilde char = [char] := if_neg tilde
        rw [spelled, List.singleton_append, replaceEscape_cons_of_ne tilde, ih]

/-- Undoing the escapes of slashes first and those of tildes after them gives back
every text. -/
theorem unescape_flatMap_escapeChar (chars : List Char) :
    unescape (chars.flatMap escapeChar) = chars := by
  rw [unescape, replaceEscape_slash, replaceEscape_tilde]

/-! ## Steps -/

/-- What a pointer's reader makes of the spelling of a step, if it is not empty. -/
def readBack? (step : Segment) : Option Segment :=
  if (piece step).isEmpty then none else some (segmentOfStep (piece step))

/-- Reading back a pointer is reading back its steps. -/
theorem ofPointer_toPointer (path : FieldPath) :
    ofPointer path.toPointer = ⟨path.segments.filterMap readBack?⟩ := by
  have pieces := steps_flatMap_pointerStep path.segments
  rw [ofPointer, toPointer, String.toList_ofList, filter_steps_dropWhile, pieces]
  congr 1
  rw [List.filter_cons_of_neg (by simp), List.filter_map, List.map_map,
    ← List.filterMap_eq_map, ← List.filterMap_eq_filter, List.filterMap_filterMap]
  apply List.filterMap_congr
  intro step _
  cases empty : (piece step).isEmpty <;> simp [readBack?, Option.guard, empty]

/-- Digits are not replaced by undoing escapes. -/
theorem unescape_of_tilde_not_mem {chars : List Char} (plain : '~' ∉ chars) :
    unescape chars = chars := by
  have kept : ∀ digit replacement, replaceEscape digit replacement chars = chars := by
    intro digit replacement
    induction chars with
    | nil => rfl
    | cons char rest ih =>
        have ⟨different, plainRest⟩ := List.ne_and_not_mem_of_not_mem_cons plain
        rw [replaceEscape_cons_of_ne different.symm, ih plainRest]
  rw [unescape, kept, kept]

/-- The digits of a number below the bound are read as the number. -/
theorem indexOfDigits?_toDigits {position : Nat} (bounded : position < indexBound) :
    indexOfDigits? (Nat.toDigits 10 position) = some position := by
  have digits : (Nat.toDigits 10 position).all Char.isDigit = true := by
    rw [List.all_eq_true]
    intro char member
    exact Nat.isDigit_of_mem_toDigits (by decide) (by decide) member
  have value : Nat.ofDigitChars 10 (Nat.toDigits 10 position) 0 = position :=
    Nat.ofDigitChars_toDigits (by decide) (by decide)
  simp [indexOfDigits?, digits, value, bounded, Nat.toDigits_ne_nil]

theorem indexOfStep?_toDigits {position : Nat} (bounded : position < indexBound) :
    indexOfStep? (Nat.toDigits 10 position) = some position := by
  have read := indexOfDigits?_toDigits bounded
  unfold indexOfStep?
  split
  next digits plus =>
      have digit : ('+' : Char).isDigit = true := by
        apply Nat.isDigit_of_mem_toDigits (b := 10) (n := position) (by decide) (by decide)
        rw [plus]
        exact List.mem_cons_self
      contradiction
  next => exact read

/-- A step that comes back: a key that is neither empty nor spelled like an
index, or an index below the bound. -/
def IsPlain : Segment → Prop
  | .key name => name ≠ "" ∧ indexOfStep? name.toList = none
  | .index position => position < indexBound

theorem readBack?_eq_some_of_isPlain {step : Segment} (plain : IsPlain step) :
    readBack? step = some step := by
  cases step with
  | key name =>
      obtain ⟨notEmpty, notIndex⟩ := plain
      have back : unescape (piece (.key name)) = name.toList :=
        unescape_flatMap_escapeChar name.toList
      have present : (piece (.key name)).isEmpty = false := by
        rw [List.isEmpty_eq_false_iff]
        intro empty
        rw [empty] at back
        exact notEmpty (String.toList_eq_nil_iff.mp back.symm)
      rw [readBack?, present, segmentOfStep, back, notIndex, String.ofList_toList]
      rfl
  | index position =>
      have noTilde : '~' ∉ Nat.toDigits 10 position := by
        intro member
        have digit := Nat.isDigit_of_mem_toDigits (by decide) (by decide) member
        contradiction
      have present : (piece (.index position)).isEmpty = false := by
        rw [List.isEmpty_eq_false_iff]
        exact Nat.toDigits_ne_nil
      rw [readBack?, present, segmentOfStep, piece, unescape_of_tilde_not_mem noTilde,
        indexOfStep?_toDigits plain]
      rfl

/-- A path with plain steps comes back from its pointer. -/
theorem ofPointer_toPointer_of_isPlain {path : FieldPath}
    (plain : ∀ step ∈ path.segments, IsPlain step) : ofPointer path.toPointer = path := by
  have same : path.segments.filterMap readBack? = path.segments := by
    calc path.segments.filterMap readBack?
        = path.segments.filterMap some := by
          apply List.filterMap_congr
          intro step member
          exact readBack?_eq_some_of_isPlain (plain step member)
      _ = path.segments := List.filterMap_some
  rw [ofPointer_toPointer, same]

end FieldPath

end WorkflowEditor
