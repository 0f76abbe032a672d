import WorkflowEditor.Proofs.Decimal.Text
import WorkflowEditor.Proofs.Yaml.Sound

/-!
# The names of keys

A key that is a boolean or a number becomes a member by its text.  Booleans are words,
integers are digits, and the text of a float has a point or a letter besides, so keys
that are not texts have different names if they are different values
(`Yaml.ScalarValue.same_of_memberName_eq`).  Only a text can be spelled like another key.
-/

namespace WorkflowEditor

/-! ## The text of numbers -/

/-- A float is not written by digits alone. -/
theorem NumberLayout.mark_mem_render (layout : NumberLayout) (value : Double) :
    '.' ∈ (layout.render value).toList ∨ 'e' ∈ (layout.render value).toList := by
  have magnitude : '.' ∈ layout.magnitudeText value.shortest ∨
      'e' ∈ layout.magnitudeText value.shortest := by
    rw [magnitudeText]
    split
    next =>
        left
        rw [positional]
        split <;> simp
    next => exact Or.inr (layout.letter_mem_scientific _)
  rw [render_eq, String.toList_ofList]
  split
  next => exact magnitude.imp (List.mem_cons_of_mem _) (List.mem_cons_of_mem _)
  next => exact magnitude

/-- The characters of an integer: a minus for a negative one, and digits. -/
theorem toList_toString_int (value : Int) :
    (toString value).toList =
      if value < 0 then '-' :: Nat.toDigits 10 value.natAbs else Nat.toDigits 10 value.natAbs := by
  cases value with
  | ofNat value =>
      have nonneg : ¬(Int.ofNat value < 0) := by simp
      rw [if_neg nonneg]
      exact Nat.toList_repr
  | negSucc value =>
      have negative : Int.negSucc value < 0 := Int.negSucc_lt_zero value
      rw [if_pos negative]
      change ("-" ++ (value + 1).repr).toList = _
      rw [String.toList_append, Nat.toList_repr]
      rfl

theorem toString_int_injective : Function.Injective (toString : Int → String) := by
  intro left right same
  have chars := congrArg String.toList same
  rw [toList_toString_int, toList_toString_int] at chars
  split at chars <;> split at chars
  next =>
      have digits := NumberLayout.toDigits_injective (List.cons.inj chars).2
      omega
  next => exact absurd chars.symm (NumberLayout.toDigits_ne_cons rfl)
  next => exact absurd chars (NumberLayout.toDigits_ne_cons rfl)
  next =>
      have digits := NumberLayout.toDigits_injective chars
      omega

/-- An integer is written by digits and perhaps a minus. -/
theorem digit_or_minus_of_mem_toString {value : Int} {char : Char}
    (member : char ∈ (toString value).toList) : char.isDigit = true ∨ char = '-' := by
  rw [toList_toString_int] at member
  split at member
  next =>
      rcases List.mem_cons.mp member with minus | inDigits
      · exact Or.inr minus
      · exact Or.inl (Double.isDigit_of_mem_toDigits inDigits)
  next => exact Or.inl (Double.isDigit_of_mem_toDigits member)

theorem toString_int_ne_render (integer : Int) (layout : NumberLayout) (value : Double) :
    toString integer ≠ layout.render value := by
  intro same
  have mark := layout.mark_mem_render value
  rw [← same] at mark
  rcases mark with point | letter
  · exact absurd (digit_or_minus_of_mem_toString point) (by decide)
  · exact absurd (digit_or_minus_of_mem_toString letter) (by decide)

/-- The word for a boolean begins like no number. -/
theorem exists_letter_mem_toString (flag : Bool) :
    ∃ letter ∈ (toString flag).toList, letter ≠ '-' ∧ ¬NumberLayout.IsNumeral letter := by
  cases flag with
  | true => exact ⟨'t', by decide, by decide, by rw [NumberLayout.IsNumeral]; decide⟩
  | false => exact ⟨'f', by decide, by decide, by rw [NumberLayout.IsNumeral]; decide⟩

theorem toString_bool_ne_int (flag : Bool) (integer : Int) : toString flag ≠ toString integer := by
  intro same
  obtain ⟨letter, member, notMinus, notNumeral⟩ := exists_letter_mem_toString flag
  rw [same] at member
  rcases digit_or_minus_of_mem_toString member with digit | minus
  · exact notNumeral (Or.inl digit)
  · exact notMinus minus

theorem toString_bool_ne_render (flag : Bool) (layout : NumberLayout) (value : Double) :
    toString flag ≠ layout.render value := by
  intro same
  obtain ⟨letter, member, -, notNumeral⟩ := exists_letter_mem_toString flag
  rw [same] at member
  exact notNumeral (layout.isNumeral_render value letter member)

theorem toString_bool_injective : Function.Injective (toString : Bool → String) := by
  intro left right same
  cases left <;> cases right <;> first | rfl | exact absurd same (by decide)

/-! ## Keys -/

namespace Yaml

namespace ScalarValue

/-- The scalar is a text. -/
def IsText (value : ScalarValue) : Prop := ∃ text, value = .text text

/-- A key with a name that is not a text is a boolean or a number. -/
theorem memberName_cases {value : ScalarValue} {name : String}
    (named : value.memberName = .ok name) (plain : ¬value.IsText) :
    (∃ flag, value = .bool flag ∧ name = toString flag) ∨
    (∃ integer, value = .integer integer ∧ name = toString integer) ∨
    ∃ double, value = .float (.finite double) ∧ name = NumberLayout.json.render double := by
  cases value with
  | null => contradiction
  | text text => exact absurd ⟨text, rfl⟩ plain
  | bool flag => exact Or.inl ⟨flag, rfl, (Except.ok.inj named).symm⟩
  | integer integer => exact Or.inr (Or.inl ⟨integer, rfl, (Except.ok.inj named).symm⟩)
  | float value =>
      cases value with
      | finite double => exact Or.inr (Or.inr ⟨double, rfl, (Except.ok.inj named).symm⟩)
      | infinite negative => contradiction
      | notANumber => contradiction

/-- Keys with one name that are not texts are one value. -/
theorem same_of_memberName_eq {left right : ScalarValue} {name : String}
    (leftCanonical : left.Canonical) (rightCanonical : right.Canonical)
    (leftPlain : ¬left.IsText) (rightPlain : ¬right.IsText)
    (leftName : left.memberName = .ok name) (rightName : right.memberName = .ok name) :
    left.same right = true := by
  rcases memberName_cases leftName leftPlain with
    ⟨flag, rfl, rfl⟩ | ⟨integer, rfl, rfl⟩ | ⟨double, rfl, rfl⟩ <;>
  rcases memberName_cases rightName rightPlain with
    ⟨other, rfl, name⟩ | ⟨other, rfl, name⟩ | ⟨other, rfl, name⟩
  · rw [toString_bool_injective name]
    exact beq_self_eq_true _
  · exact absurd name (toString_bool_ne_int _ _)
  · exact absurd name (toString_bool_ne_render _ _ _)
  · exact absurd name.symm (toString_bool_ne_int _ _)
  · rw [toString_int_injective name]
    exact beq_self_eq_true _
  · exact absurd name (toString_int_ne_render _ _ _)
  · exact absurd name.symm (toString_bool_ne_render _ _ _)
  · exact absurd name.symm (toString_int_ne_render _ _ _)
  · exact NumberLayout.sameNumber_of_render_eq leftCanonical rightCanonical name

end ScalarValue

end Yaml

end WorkflowEditor
