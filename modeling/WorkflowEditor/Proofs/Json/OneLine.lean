import WorkflowEditor.Json.Printer
import WorkflowEditor.Proofs.Decimal.Digits
import WorkflowEditor.Proofs.Text.Lines

/-!
# Compact JSON is one line

Strings are the only part of a value where a line break can stand, and there it is
escaped.
-/

namespace WorkflowEditor

namespace Json

open Text (OneLine)

theorem newline_not_mem_quotedChars (text : String) : '\n' ∉ quotedChars text := by
  rw [quotedChars, List.cons_append, List.mem_cons, List.mem_append, List.mem_flatMap]
  rintro (quote | ⟨char, -, escaped⟩ | quote)
  · contradiction
  · exact newline_not_mem_escapedChar char escaped
  · exact absurd (List.mem_singleton.mp quote) (by decide)

theorem oneLine_numberText (number : JsonNumber) : OneLine (numberText number) := by
  cases number with
  | integer value =>
      cases value with
      | ofNat value => exact Text.oneLine_toString value
      | negSucc value =>
          change OneLine ("-" ++ toString (value + 1))
          exact Text.oneLine_append.mpr ⟨by decide, Text.oneLine_toString _⟩
  | double value =>
      intro member
      have numeral := NumberLayout.isNumeral_render _ value _ member
      exact absurd numeral (by rw [NumberLayout.IsNumeral]; decide)

mutual

theorem newline_not_mem_compactChars : (value : Json) → '\n' ∉ compactChars value
  | .null => by decide
  | .bool true => by decide
  | .bool false => by decide
  | .number value => oneLine_numberText value
  | .string text => newline_not_mem_quotedChars text
  | .array [] => by decide
  | .array (item :: rest) => by
      have first := newline_not_mem_compactChars item
      have others := newline_not_mem_compactItems rest
      simp [compactChars, first, others]
  | .object [] => by decide
  | .object ((key, value) :: rest) => by
      have name := newline_not_mem_quotedChars key
      have first := newline_not_mem_compactChars value
      have others := newline_not_mem_compactMembers rest
      simp [compactChars, name, first, others]

theorem newline_not_mem_compactItems : (items : List Json) → '\n' ∉ compactItems items
  | [] => List.not_mem_nil
  | item :: rest => by
      have first := newline_not_mem_compactChars item
      have others := newline_not_mem_compactItems rest
      simp [compactItems, first, others]

theorem newline_not_mem_compactMembers :
    (members : List (String × Json)) → '\n' ∉ compactMembers members
  | [] => List.not_mem_nil
  | (key, value) :: rest => by
      have name := newline_not_mem_quotedChars key
      have first := newline_not_mem_compactChars value
      have others := newline_not_mem_compactMembers rest
      simp [compactMembers, name, first, others]

end

/-- The compact text of a value holds no line break. -/
theorem oneLine_compact (value : Json) : OneLine value.compact :=
  Text.oneLine_ofList.mpr (newline_not_mem_compactChars value)

end Json

end WorkflowEditor
