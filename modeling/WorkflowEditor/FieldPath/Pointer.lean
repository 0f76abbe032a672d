import WorkflowEditor.FieldPath.Basic

/-!
# JSON pointers

A JSON pointer writes a path with a slash before every step; in keys `~` is
written `~0` and `/` is written `~1`.  A pointer does not tell keys from
indices: reading takes a step for an index whenever it is a natural number below
`2 ^ 64`, and empty steps are dropped.
-/

namespace WorkflowEditor

namespace FieldPath

/-- Replace every tilde before `digit` by `replacement`, together with the digit. -/
def replaceEscape (digit replacement : Char) : List Char → List Char
  | '~' :: next :: rest =>
      if next = digit then replacement :: replaceEscape digit replacement rest
      else '~' :: replaceEscape digit replacement (next :: rest)
  | char :: rest => char :: replaceEscape digit replacement rest
  | [] => []

/-- Undo the escapes of a step, those of slashes first. -/
def unescape (step : List Char) : List Char :=
  replaceEscape '0' '~' (replaceEscape '1' '/' step)

/-- The number of indices, `2 ^ 64`. -/
def indexBound : Nat := 18446744073709551616

/-- The natural number that decimal digits write, if it is below the bound. -/
def indexOfDigits? (digits : List Char) : Option Nat :=
  if digits.isEmpty || !digits.all Char.isDigit then none
  else
    let value := Nat.ofDigitChars 10 digits 0
    if value < indexBound then some value else none

/-- The index that a step writes: digits, perhaps behind a plus. -/
def indexOfStep? : List Char → Option Nat
  | '+' :: digits => indexOfDigits? digits
  | digits => indexOfDigits? digits

/-- The step that one piece of a pointer writes. -/
def segmentOfStep (step : List Char) : Segment :=
  let plain := unescape step
  match indexOfStep? plain with
  | some position => .index position
  | none => .key (String.ofList plain)

/-- The pieces between slashes. -/
def steps : List Char → List (List Char)
  | [] => [[]]
  | '/' :: rest => [] :: steps rest
  | char :: rest =>
      match steps rest with
      | [] => [[char]]
      | first :: others => (char :: first) :: others

/-- The path that a pointer writes. -/
def ofPointer (pointer : String) : FieldPath :=
  let written := steps (pointer.toList.dropWhile (· == '/'))
  ⟨(written.filter fun step => !step.isEmpty).map segmentOfStep⟩

/-- The spelling of a character in a pointer. -/
def escapeChar : Char → List Char
  | '~' => ['~', '0']
  | '/' => ['~', '1']
  | char => [char]

/-- The spelling of a step in a pointer. -/
def pointerStep : Segment → List Char
  | .key name => '/' :: name.toList.flatMap escapeChar
  | .index position => '/' :: Nat.toDigits 10 position

/-- The pointer that writes a path. -/
def toPointer (path : FieldPath) : String :=
  String.ofList (path.segments.flatMap pointerStep)

@[simp] theorem ofPointer_empty : ofPointer "" = root := by decide

end FieldPath

end WorkflowEditor
