import Mathlib
import WorkflowEditor.Proofs.FieldPath.Pointer

/-!
# Which paths come back from their pointers

A pointer spells keys and indices alike, and its reader guesses: an empty piece is
nothing, and a piece that spells an index is one.  So a path comes back exactly
when the guess is right at each of its steps (`FieldPath.ofPointer_toPointer_iff`).
Escapes have no part in this, for they are always undone
(`FieldPath.unescape_flatMap_escapeChar`).
-/

namespace WorkflowEditor

namespace FieldPath

/-- The characters spell an index: a plus or nothing, and the decimal digits of a
number below `2 ^ 64`, of which there is one at least. -/
def SpellsIndex (chars : List Char) : Prop :=
  ∃ sign digits : List Char, chars = sign ++ digits ∧ (sign = [] ∨ sign = ['+']) ∧
    digits ≠ [] ∧ (∀ digit ∈ digits, digit.isDigit = true) ∧
    Nat.ofDigitChars 10 digits 0 < 2 ^ 64

/-! ## Reading an index -/

theorem indexOfDigits?_eq_some_iff {digits : List Char} {position : Nat} :
    indexOfDigits? digits = some position ↔
      digits ≠ [] ∧ (∀ digit ∈ digits, digit.isDigit = true) ∧
        position = Nat.ofDigitChars 10 digits 0 ∧ position < 2 ^ 64 := by
  have bound : indexBound = 2 ^ 64 := by decide
  rw [indexOfDigits?, bound]
  split
  next rejected =>
      rw [Bool.or_eq_true, List.isEmpty_iff, Bool.not_eq_true', ← Bool.not_eq_true,
        List.all_eq_true] at rejected
      simp only [reduceCtorEq, false_iff]
      rintro ⟨notEmpty, allDigits, -⟩
      exact rejected.elim notEmpty fun other => other allDigits
  next accepted =>
      rw [Bool.or_eq_true, List.isEmpty_iff, Bool.not_eq_true', ← Bool.not_eq_true,
        List.all_eq_true, not_or, not_not] at accepted
      dsimp only
      rw [Option.ite_none_right_eq_some, Option.some.injEq]
      constructor
      · rintro ⟨below, rfl⟩
        exact ⟨accepted.1, accepted.2, rfl, below⟩
      · rintro ⟨-, -, rfl, below⟩
        exact ⟨below, rfl⟩

/-- A step is read as an index exactly when it spells one. -/
theorem isSome_indexOfStep?_iff {chars : List Char} :
    (indexOfStep? chars).isSome ↔ SpellsIndex chars := by
  have plain : ∀ digits, (indexOfDigits? digits).isSome ↔
      digits ≠ [] ∧ (∀ digit ∈ digits, digit.isDigit = true) ∧
        Nat.ofDigitChars 10 digits 0 < 2 ^ 64 := by
    intro digits
    rw [Option.isSome_iff_exists]
    constructor
    · rintro ⟨position, read⟩
      obtain ⟨notEmpty, allDigits, rfl, below⟩ := indexOfDigits?_eq_some_iff.mp read
      exact ⟨notEmpty, allDigits, below⟩
    · rintro ⟨notEmpty, allDigits, below⟩
      exact ⟨_, indexOfDigits?_eq_some_iff.mpr ⟨notEmpty, allDigits, rfl, below⟩⟩
  unfold indexOfStep?
  split
  next digits =>
      rw [plain]
      constructor
      · intro spelled
        exact ⟨['+'], digits, rfl, Or.inr rfl, spelled⟩
      · rintro ⟨sign, others, same, rfl | rfl, spelled⟩
        · rw [List.nil_append] at same
          subst same
          have digit := spelled.2.1 '+' List.mem_cons_self
          contradiction
        · cases same
          exact spelled
  next noPlus =>
      rw [plain]
      constructor
      · intro spelled
        exact ⟨[], chars, rfl, Or.inl rfl, spelled⟩
      · rintro ⟨sign, others, rfl, rfl | rfl, spelled⟩
        · exact spelled
        · exact absurd rfl (noPlus others)

/-! ## Reading back a step -/

/-- A key is read as an index if it spells one, and as nothing if it is empty. -/
theorem readBack?_key (name : String) :
    readBack? (.key name) =
      if name = "" then none
      else some ((indexOfStep? name.toList).elim (.key name) .index) := by
  have back : unescape (piece (.key name)) = name.toList := unescape_flatMap_escapeChar _
  have empty : (piece (.key name)).isEmpty = true ↔ name = "" := by
    rw [List.isEmpty_iff, ← String.toList_eq_nil_iff]
    constructor
    · intro noPiece
      rw [← back, noPiece]
      rfl
    · intro noName
      rw [piece, noName]
      rfl
  rw [readBack?, segmentOfStep, back, String.ofList_toList, if_congr empty rfl rfl]
  cases indexOfStep? name.toList <;> rfl

/-- A key comes back exactly when it is neither empty nor spells an index. -/
theorem readBack?_key_eq_some_iff {name : String} :
    readBack? (.key name) = some (.key name) ↔ name ≠ "" ∧ ¬SpellsIndex name.toList := by
  rw [readBack?_key, Option.ite_none_left_eq_some, Option.some.injEq, ← isSome_indexOfStep?_iff]
  apply and_congr_right
  intro _
  cases indexOfStep? name.toList <;> simp

/-! ## Reading back a path -/

/-- A list stays as it is only if each of its elements does. -/
theorem filterMap_eq_self_iff {α : Type} {visit : α → Option α} {items : List α} :
    items.filterMap visit = items ↔ ∀ item ∈ items, visit item = some item := by
  induction items with
  | nil => simp
  | cons item rest ih =>
      rw [List.forall_mem_cons, ← ih, List.filterMap_cons]
      cases visited : visit item with
      | none =>
          -- nothing can take the place of a dropped element
          simp only [reduceCtorEq, false_and, iff_false]
          intro same
          have shorter := List.length_filterMap_le visit rest
          rw [same, List.length_cons] at shorter
          omega
      | some found => rw [List.cons.injEq, Option.some.injEq]

/-- A path whose indices are below `2 ^ 64` comes back from its pointer exactly when
none of its keys is empty or spells an index. -/
theorem ofPointer_toPointer_iff {segments : List Segment}
    (bounded : ∀ position, .index position ∈ segments → position < 2 ^ 64) :
    (ofPointer (toPointer ⟨segments⟩)).segments = segments ↔
      ∀ name, .key name ∈ segments → name ≠ "" ∧ ¬SpellsIndex name.toList := by
  rw [ofPointer_toPointer, filterMap_eq_self_iff]
  constructor
  · intro back name member
    exact readBack?_key_eq_some_iff.mp (back (.key name) member)
  · intro plain step member
    cases step with
    | key name => exact readBack?_key_eq_some_iff.mpr (plain name member)
    | index position => exact readBack?_eq_some_of_isPlain (bounded position member)

/-- Keys that look like escapes come back, beside the greatest index. -/
theorem ofPointer_toPointer_escapes :
    (∀ position, .index position ∈ [Segment.key "~01", .index (2 ^ 64 - 1), .key "a~/b~1"] →
      position < 2 ^ 64) ∧
    (ofPointer (toPointer
      ⟨[.key "~01", .index (2 ^ 64 - 1), .key "a~/b~1"]⟩)).segments =
        [.key "~01", .index (2 ^ 64 - 1), .key "a~/b~1"] := by
  have bounded : ∀ position,
      .index position ∈ [Segment.key "~01", .index (2 ^ 64 - 1), .key "a~/b~1"] →
        position < 2 ^ 64 := by
    simp
  refine ⟨bounded, (ofPointer_toPointer_iff bounded).mpr ?_⟩
  have plain : ∀ name ∈ ["~01", "a~/b~1"], name ≠ "" ∧ ¬(indexOfStep? name.toList).isSome := by
    decide
  intro name member
  rw [← isSome_indexOfStep?_iff]
  apply plain
  simpa using member

/-- Other spellings of an index do not come back. -/
example : ofPointer (toPointer ⟨[.key "+007", .key ""]⟩) = ⟨[.index 7]⟩ := by decide

end FieldPath

end WorkflowEditor
