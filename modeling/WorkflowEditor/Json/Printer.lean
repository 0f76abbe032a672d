import WorkflowEditor.Json.Basic
import WorkflowEditor.Decimal.Layout

/-!
# JSON text of a value

A value is written either on one line or over several lines with two blanks per
level.  Members are written in the order in which the value lists them.  Of a
string's characters only the quote, the backslash and the control characters
below U+0020 are escaped, so no text holds a line break.
-/

namespace WorkflowEditor

namespace Json

/-- A digit of a hexadecimal number in lower case. -/
def hexDigit (value : Nat) : Char := Nat.digitChar value

/-- The spelling of a character inside a JSON string. -/
def escapedChar (char : Char) : List Char :=
  match char with
  | '"' => ['\\', '"']
  | '\\' => ['\\', '\\']
  | '\x08' => ['\\', 'b']
  | '\t' => ['\\', 't']
  | '\n' => ['\\', 'n']
  | '\x0c' => ['\\', 'f']
  | '\r' => ['\\', 'r']
  | other =>
      if other.toNat < 0x20 then
        ['\\', 'u', '0', '0', hexDigit (other.toNat / 16), hexDigit (other.toNat % 16)]
      else
        [other]

/-- A JSON string. -/
def quotedChars (text : String) : List Char :=
  '"' :: text.toList.flatMap escapedChar ++ ['"']

/-- The text of a number. -/
def numberText : JsonNumber → String
  | .integer value => toString value
  | .double value => NumberLayout.json.render value

mutual

/-- The characters of a value on one line. -/
def compactChars : Json → List Char
  | .null => "null".toList
  | .bool true => "true".toList
  | .bool false => "false".toList
  | .number value => (numberText value).toList
  | .string text => quotedChars text
  | .array [] => ['[', ']']
  | .array (item :: rest) => '[' :: compactChars item ++ compactItems rest ++ [']']
  | .object [] => ['\x7b', '\x7d']
  | .object ((key, value) :: rest) =>
      '\x7b' :: quotedChars key ++ ':' :: compactChars value ++ compactMembers rest ++ ['\x7d']

/-- The items after the first one, each behind a comma. -/
def compactItems : List Json → List Char
  | [] => []
  | item :: rest => ',' :: compactChars item ++ compactItems rest

/-- The members after the first one, each behind a comma. -/
def compactMembers : List (String × Json) → List Char
  | [] => []
  | (key, value) :: rest =>
      ',' :: quotedChars key ++ ':' :: compactChars value ++ compactMembers rest

end

/-- The text of a value on one line. -/
def compact (value : Json) : String := String.ofList (compactChars value)

/-- A line break and the blanks of a level. -/
def newLine (level : Nat) : List Char := '\n' :: List.replicate (2 * level) ' '

mutual

/-- The characters of a value over several lines, inside `level` others. -/
def prettyChars (level : Nat) : Json → List Char
  | .array (item :: rest) =>
      '[' :: newLine (level + 1) ++ prettyChars (level + 1) item ++
        prettyItems (level + 1) rest ++ newLine level ++ [']']
  | .object ((key, value) :: rest) =>
      '\x7b' :: newLine (level + 1) ++ quotedChars key ++ [':', ' '] ++
        prettyChars (level + 1) value ++ prettyMembers (level + 1) rest ++
        newLine level ++ ['\x7d']
  | .array [] => ['[', ']']
  | .object [] => ['\x7b', '\x7d']
  | .null => compactChars .null
  | .bool value => compactChars (.bool value)
  | .number value => compactChars (.number value)
  | .string text => compactChars (.string text)

/-- The items after the first one, each on a new line. -/
def prettyItems (level : Nat) : List Json → List Char
  | [] => []
  | item :: rest => ',' :: newLine level ++ prettyChars level item ++ prettyItems level rest

/-- The members after the first one, each on a new line. -/
def prettyMembers (level : Nat) : List (String × Json) → List Char
  | [] => []
  | (key, value) :: rest =>
      ',' :: newLine level ++ quotedChars key ++ [':', ' '] ++ prettyChars level value ++
        prettyMembers level rest

end

/-- The text of a value over several lines. -/
def pretty (value : Json) : String := String.ofList (prettyChars 0 value)

/-- No escaped character is a line break. -/
theorem newline_not_mem_escapedChar (char : Char) : '\n' ∉ escapedChar char := by
  unfold escapedChar
  split <;> try decide
  rename_i notNewline _ _
  split
  · rename_i small
    have low : ∀ digit < 16, hexDigit digit ≠ '\n' := by decide
    simp only [List.mem_cons, List.not_mem_nil, or_false, not_or]
    exact ⟨by decide, by decide, by decide, by decide,
      (low _ (by omega)).symm, (low _ (by omega)).symm⟩
  · simpa using Ne.symm notNewline

end Json

end WorkflowEditor
