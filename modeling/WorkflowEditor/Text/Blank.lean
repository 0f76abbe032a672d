/-!
# Blank text

The Unicode property `White_Space` and the trimming that it induces.  A text is
blank when trimming leaves nothing of it, which `isBlank_iff_trim_eq` ties to
the character-wise test.
-/

namespace WorkflowEditor.Text

/-- The 25 characters with the Unicode property `White_Space`. -/
def isWhitespace (char : Char) : Bool :=
  let code := char.toNat
  (9 ≤ code && code ≤ 13) || code == 0x20 || code == 0x85 || code == 0xA0 ||
    code == 0x1680 || (0x2000 ≤ code && code ≤ 0x200A) || code == 0x2028 ||
    code == 0x2029 || code == 0x202F || code == 0x205F || code == 0x3000

/-- The characters from the first one that is not white space. -/
def trimStart (chars : List Char) : List Char :=
  chars.dropWhile isWhitespace

/-- The characters up to the last one that is not white space. -/
def trimEnd (chars : List Char) : List Char :=
  (trimStart chars.reverse).reverse

/-- The text without white space at either end. -/
def trim (text : String) : String :=
  String.ofList (trimEnd (trimStart text.toList))

/-- Whether the text holds white space only. -/
def isBlank (text : String) : Bool :=
  text.toList.all isWhitespace

theorem trimStart_eq_nil_iff (chars : List Char) :
    trimStart chars = [] ↔ chars.all isWhitespace = true := by
  induction chars with
  | nil => simp [trimStart]
  | cons head tail ih =>
      unfold trimStart at ih ⊢
      by_cases blank : isWhitespace head = true <;>
        simp [blank, ih]

theorem trimEnd_eq_nil_iff (chars : List Char) :
    trimEnd chars = [] ↔ chars.all isWhitespace = true := by
  rw [trimEnd, List.reverse_eq_nil_iff, trimStart_eq_nil_iff, List.all_reverse]

/-- A text is blank exactly when trimming leaves the empty text. -/
theorem isBlank_iff_trim_eq (text : String) :
    isBlank text = true ↔ trim text = "" := by
  rw [isBlank, trim, ← trimStart_eq_nil_iff]
  constructor
  · intro empty
    rw [empty]
    rfl
  · intro empty
    have noneLeft : trimEnd (trimStart text.toList) = [] := by
      have := congrArg String.toList empty
      simpa using this
    rw [trimEnd_eq_nil_iff] at noneLeft
    cases kept : trimStart text.toList with
    | nil => rfl
    | cons head tail =>
        rw [kept] at noneLeft
        have headKept : isWhitespace head = false := by
          have := List.head?_dropWhile_not isWhitespace text.toList
          unfold trimStart at kept
          rw [kept] at this
          simpa using this
        simp [headKept] at noneLeft

end WorkflowEditor.Text
