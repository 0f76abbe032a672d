import Mathlib.Data.List.Basic
import WorkflowEditor.Decimal.Layout

/-!
# The characters of a number's text

The shortest decimal of a double has at least one digit, and nothing but digits.  So
the text of a double is made of digits, signs, a point and the letter before the power
of ten.
-/

namespace WorkflowEditor

/-- A decimal is written by digits, of which it has at least one. -/
structure ScientificDecimal.Spelled (decimal : ScientificDecimal) : Prop where
  ne_nil : decimal.digits ≠ []
  isDigit : ∀ char ∈ decimal.digits, char.isDigit = true

namespace Double

/-- The digits without the zeros at their end. -/
def trimmed (digits : List Char) : List Char := (digits.reverse.dropWhile (· == '0')).reverse

theorem trimmed_sublist (digits : List Char) : (trimmed digits).Sublist digits := by
  have dropped := (List.dropWhile_sublist (· == '0') (l := digits.reverse)).reverse
  rwa [List.reverse_reverse] at dropped

theorem decimalOf_eq (candidate : Nat) (power : Int) :
    decimalOf candidate power =
      ⟨if (trimmed (Nat.toDigits 10 candidate)).isEmpty then ['0']
        else trimmed (Nat.toDigits 10 candidate),
        power + (Nat.toDigits 10 candidate).length - 1⟩ := rfl

theorem isDigit_of_mem_toDigits {value : Nat} {char : Char}
    (member : char ∈ Nat.toDigits 10 value) : char.isDigit = true :=
  Nat.isDigit_of_mem_toDigits (by decide) (by decide) member

theorem spelled_zero (exponent : Int) : ScientificDecimal.Spelled ⟨['0'], exponent⟩ where
  ne_nil := List.cons_ne_nil _ _
  isDigit := List.forall_mem_singleton.mpr rfl

theorem spelled_decimalOf (candidate : Nat) (power : Int) :
    (decimalOf candidate power).Spelled := by
  rw [decimalOf_eq]
  split
  next => exact spelled_zero _
  next present =>
      refine ⟨mt List.isEmpty_iff.mpr present, fun char member => ?_⟩
      exact isDigit_of_mem_toDigits ((trimmed_sublist _).subset member)

/-- A decimal on a grid is a multiple of the grid's step. -/
theorem exists_of_decimalOnGrid? {value : Double} {power : Int} {decimal : ScientificDecimal}
    (found : value.decimalOnGrid? power = some decimal) :
    ∃ candidate, decimal = decimalOf candidate power := by
  obtain ⟨candidate, -, rfl⟩ := Option.map_eq_some_iff.mp found
  exact ⟨candidate, rfl⟩

theorem spelled_shortest (value : Double) : value.shortest.Spelled := by
  rw [shortest]
  split
  next => exact spelled_zero _
  next =>
      dsimp only
      cases found : List.findSome? value.decimalOnGrid? _ with
      | none => exact spelled_zero _
      | some decimal =>
          obtain ⟨power, -, onGrid⟩ := List.exists_of_findSome?_eq_some found
          obtain ⟨candidate, rfl⟩ := exists_of_decimalOnGrid? onGrid
          exact spelled_decimalOf candidate power

end Double

namespace NumberLayout

/-- The characters of a number's text that are no digits. -/
def marks : List Char := ['-', '+', '.', 'e']

/-- A character of a number's text. -/
def IsNumeral (char : Char) : Prop := char.isDigit = true ∨ char ∈ marks

theorem isNumeral_of_digits {digits : List Char} (isDigit : ∀ char ∈ digits, char.isDigit = true) :
    ∀ char ∈ digits, IsNumeral char :=
  fun char member => Or.inl (isDigit char member)

theorem isNumeral_zeros (count : Nat) : ∀ char ∈ List.replicate count '0', IsNumeral char :=
  fun _ member => Or.inl (List.eq_of_mem_replicate member ▸ rfl)

theorem isNumeral_toDigits (value : Nat) : ∀ char ∈ Nat.toDigits 10 value, IsNumeral char :=
  isNumeral_of_digits fun _ => Double.isDigit_of_mem_toDigits

theorem isNumeral_cons_mark {mark : Char} {rest : List Char} (isMark : mark ∈ marks)
    (tail : ∀ char ∈ rest, IsNumeral char) : ∀ char ∈ mark :: rest, IsNumeral char :=
  List.forall_mem_cons.mpr ⟨Or.inr isMark, tail⟩

variable {decimal : ScientificDecimal} {layout : NumberLayout}

theorem isNumeral_positional (spelled : decimal.Spelled) :
    ∀ char ∈ positional decimal, IsNumeral char := by
  have digits := isNumeral_of_digits spelled.isDigit
  rw [positional]
  split
  next =>
      have front : ∀ char ∈ ['0', '.'], IsNumeral char :=
        List.forall_mem_cons.mpr ⟨Or.inl rfl, isNumeral_cons_mark (by decide) nofun⟩
      rw [List.forall_mem_append, List.forall_mem_append]
      exact ⟨⟨front, isNumeral_zeros _⟩, digits⟩
  next =>
      rw [List.forall_mem_append, List.forall_mem_append, List.forall_mem_append]
      refine ⟨⟨⟨?whole, isNumeral_zeros _⟩, isNumeral_cons_mark (by decide) nofun⟩, ?fraction⟩
      case whole => exact fun char member => digits char (List.mem_of_mem_take member)
      case fraction =>
          split
          next => exact isNumeral_zeros 1
          next => exact fun char member => digits char (List.mem_of_mem_drop member)

theorem isNumeral_scientific (spelled : decimal.Spelled) :
    ∀ char ∈ layout.scientific decimal, IsNumeral char := by
  have digits := isNumeral_of_digits spelled.isDigit
  rw [scientific, List.forall_mem_append, List.forall_mem_append]
  refine ⟨⟨?first, ?fraction⟩, isNumeral_cons_mark (by decide) ?power⟩
  case first => exact fun char member => digits char (List.mem_of_mem_take member)
  case fraction =>
      split
      next => nofun
      next =>
          refine isNumeral_cons_mark (by decide) fun char member => ?_
          exact digits char (List.mem_of_mem_drop member)
  case power =>
      split
      next => exact isNumeral_cons_mark (by decide) (isNumeral_toDigits _)
      next =>
          split
          next => exact isNumeral_cons_mark (by decide) (isNumeral_toDigits _)
          next => exact isNumeral_toDigits _

/-- The text of a double is made of digits, signs, a point and the letter before the
power of ten. -/
theorem isNumeral_render (layout : NumberLayout) (value : Double) :
    ∀ char ∈ (layout.render value).toList, IsNumeral char := by
  have spelled := value.spelled_shortest
  have magnitude : ∀ isPositional : Prop, [Decidable isPositional] →
      ∀ char ∈ if isPositional then positional value.shortest
        else layout.scientific value.shortest, IsNumeral char := by
    intro isPositional _
    split
    next => exact isNumeral_positional spelled
    next => exact isNumeral_scientific spelled
  rw [render, String.toList_ofList]
  split
  next => exact isNumeral_cons_mark (by decide) (magnitude _)
  next => exact magnitude _

end NumberLayout

end WorkflowEditor
