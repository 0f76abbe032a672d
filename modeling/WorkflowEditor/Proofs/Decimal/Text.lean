import WorkflowEditor.Proofs.Decimal.Shortest

/-!
# The text of a number tells the number

In either form the text of a decimal can be read back: the characters around the point
give its digits and their weight, and so do the digits and the power of ten around the
letter.  So doubles with one text have one sign and one shortest decimal, and canonical
ones are one number (`NumberLayout.sameNumber_of_render_eq`).
-/

namespace WorkflowEditor

/-! ## The number that a decimal writes -/

namespace ScientificDecimal

/-- The number that a decimal writes. -/
def number (decimal : ScientificDecimal) : ℚ :=
  Nat.ofDigitChars 10 decimal.digits 0 * 10 ^ (decimal.exponent + 1 - decimal.digits.length)

end ScientificDecimal

namespace Double

theorem exists_eq_trimmed_append (digits : List Char) :
    ∃ count, digits = trimmed digits ++ List.replicate count '0' := by
  let zeros := digits.reverse.takeWhile (· == '0')
  have allZero : ∀ char ∈ zeros, char = '0' := by
    intro char member
    simpa using List.mem_takeWhile_imp member
  refine ⟨zeros.length, ?_⟩
  calc digits
      = (zeros ++ digits.reverse.dropWhile (· == '0')).reverse := by
        rw [List.takeWhile_append_dropWhile, List.reverse_reverse]
    _ = trimmed digits ++ zeros.reverse := List.reverse_append
    _ = trimmed digits ++ List.replicate zeros.length '0' := by
        rw [← List.reverse_replicate, ← List.eq_replicate_of_mem allZero]

/-- Leaving out the zeros at the end keeps the number. -/
theorem number_decimalOf {candidate : Nat} (positive : 0 < candidate) (power : Int) :
    (decimalOf candidate power).number = candidate * 10 ^ power := by
  obtain ⟨count, split⟩ := exists_eq_trimmed_append (Nat.toDigits 10 candidate)
  have value : Nat.ofDigitChars 10 (Nat.toDigits 10 candidate) 0 = candidate :=
    Nat.ofDigitChars_ten_toDigits
  have length := congrArg List.length split
  rw [List.length_append, List.length_replicate] at length
  rw [split, Nat.ofDigitChars_append, Nat.ofDigitChars_replicate_zero] at value
  have present : ¬(trimmed (Nat.toDigits 10 candidate)).isEmpty = true := by
    rw [List.isEmpty_iff]
    intro empty
    rw [empty, Nat.ofDigitChars_nil] at value
    omega
  have weight : power + (Nat.toDigits 10 candidate).length - 1 + 1 -
      (trimmed (Nat.toDigits 10 candidate)).length = count + power := by
    rw [length]
    push_cast
    ring
  rw [decimalOf_eq, if_neg present, ScientificDecimal.number]
  dsimp only
  rw [weight, zpow_add₀ (by norm_num), zpow_natCast, ← mul_assoc]
  congr 1
  rw [mul_comm]
  exact_mod_cast value

end Double

/-! ## Positional text -/

namespace NumberLayout

variable {decimal : ScientificDecimal} {layout : NumberLayout}

/-- The number that digits around a point write. -/
def positionalNumber (chars : List Char) : ℚ :=
  let whole := chars.takeWhile (· ≠ '.')
  let fraction := (chars.dropWhile (· ≠ '.')).drop 1
  Nat.ofDigitChars 10 (whole ++ fraction) 0 * 10 ^ (-fraction.length : ℤ)

theorem positionalNumber_append {whole fraction : List Char} (plain : '.' ∉ whole) :
    positionalNumber (whole ++ '.' :: fraction) =
      Nat.ofDigitChars 10 (whole ++ fraction) 0 * 10 ^ (-fraction.length : ℤ) := by
  have before : ∀ char ∈ whole, (char ≠ '.') := fun char member same => plain (same ▸ member)
  have wholeIs : (whole ++ '.' :: fraction).takeWhile (· ≠ '.') = whole := by
    rw [List.takeWhile_append_of_pos (by simpa using before)]
    simp
  have rest : (whole ++ '.' :: fraction).dropWhile (· ≠ '.') = '.' :: fraction := by
    rw [List.dropWhile_append_of_pos (by simpa using before)]
    simp
  rw [positionalNumber, wholeIs, rest]
  rfl

/-- Digits hold no mark. -/
theorem not_mem_of_digits {mark : Char} {digits : List Char} (isMark : mark.isDigit = false)
    (isDigit : ∀ char ∈ digits, char.isDigit = true) : mark ∉ digits := fun member =>
  absurd (isDigit _ member) (Bool.eq_false_iff.mp isMark)

theorem ofDigitChars_replicate_append (count : Nat) (digits : List Char) :
    Nat.ofDigitChars 10 (List.replicate count '0' ++ digits) 0 =
      Nat.ofDigitChars 10 digits 0 := by
  rw [Nat.ofDigitChars_append, Nat.ofDigitChars_replicate_zero, mul_zero]

/-- Positional text writes the number of the decimal. -/
theorem positionalNumber_positional (spelled : decimal.Spelled) :
    positionalNumber (positional decimal) = decimal.number := by
  have noPoint : '.' ∉ decimal.digits := not_mem_of_digits rfl spelled.isDigit
  rw [positional, ScientificDecimal.number]
  split
  next negative =>
      obtain ⟨zeros, count⟩ : ∃ zeros, (-decimal.exponent - 1).toNat = zeros := ⟨_, rfl⟩
      have shape : ['0', '.'] ++ List.replicate zeros '0' ++ decimal.digits =
          ['0'] ++ '.' :: (List.replicate zeros '0' ++ decimal.digits) := by simp
      have weight : (-(List.replicate zeros '0' ++ decimal.digits).length : ℤ) =
          decimal.exponent + 1 - decimal.digits.length := by
        rw [List.length_append, List.length_replicate]
        omega
      rw [count, shape, positionalNumber_append (by decide), weight]
      congr 2
      exact (ofDigitChars_replicate_append 1 _).trans (ofDigitChars_replicate_append zeros _)
  next nonneg =>
      obtain ⟨power, exponent⟩ := Int.eq_ofNat_of_zero_le (not_lt.mp nonneg)
      rw [exponent, Int.toNat_natCast]
      dsimp only
      rcases Nat.lt_or_ge (power + 1) decimal.digits.length with split | whole
      · -- the point stands between two digits
        have padding : power + 1 - (decimal.digits.take (power + 1)).length = 0 := by
          rw [List.length_take]
          omega
        have present : ¬(decimal.digits.drop (power + 1)).isEmpty = true := by
          rw [List.isEmpty_iff, List.drop_eq_nil_iff]
          omega
        have weight : (-(decimal.digits.drop (power + 1)).length : ℤ) =
            power + 1 - decimal.digits.length := by
          rw [List.length_drop]
          omega
        rw [padding, if_neg present, List.replicate_zero, List.append_nil, List.append_assoc,
          List.singleton_append,
          positionalNumber_append fun member => noPoint (List.mem_of_mem_take member), weight,
          List.take_append_drop]
      · -- the point stands behind all digits and perhaps some zeros
        obtain ⟨zeros, padding⟩ : ∃ zeros, power + 1 - decimal.digits.length = zeros := ⟨_, rfl⟩
        have weight : ((zeros + 1 : Nat) : ℤ) + -1 = power + 1 - decimal.digits.length := by
          omega
        have padded : '.' ∉ decimal.digits ++ List.replicate zeros '0' := by
          rw [List.mem_append, not_or]
          exact ⟨noPoint, fun member => absurd (List.eq_of_mem_replicate member) (by decide)⟩
        have digits : decimal.digits ++ List.replicate zeros '0' ++ ['0'] =
            decimal.digits ++ List.replicate (zeros + 1) '0' := by
          rw [List.append_assoc, List.replicate_succ']
        rw [List.take_of_length_le whole, List.drop_eq_nil_iff.mpr whole, padding,
          List.isEmpty_nil, if_pos rfl, List.append_assoc _ ['.'], List.singleton_append,
          positionalNumber_append padded, digits, Nat.ofDigitChars_append,
          Nat.ofDigitChars_replicate_zero, ← weight, zpow_add₀ (by norm_num), zpow_natCast,
          List.length_singleton, Nat.cast_one]
        push_cast
        ring

/-! ## Scientific text -/

/-- The text of the power of ten. -/
def powerText (layout : NumberLayout) (exponent : Int) : List Char :=
  if exponent < 0 then '-' :: Nat.toDigits 10 (-exponent).toNat
  else if layout.plusSign then '+' :: Nat.toDigits 10 exponent.toNat
  else Nat.toDigits 10 exponent.toNat

/-- The digits before the letter, the first of them before the point. -/
def mantissaText (digits : List Char) : List Char :=
  digits.take 1 ++ if (digits.drop 1).isEmpty then [] else '.' :: digits.drop 1

theorem scientific_eq (layout : NumberLayout) (decimal : ScientificDecimal) :
    layout.scientific decimal =
      mantissaText decimal.digits ++ 'e' :: layout.powerText decimal.exponent := rfl

theorem toDigits_injective : Function.Injective (Nat.toDigits 10) := by
  intro left right same
  have read := congrArg (Nat.ofDigitChars 10 · 0) same
  simpa only [Nat.ofDigitChars_ten_toDigits] using read

/-- No digits start with a sign. -/
theorem toDigits_ne_cons {value : Nat} {sign : Char} {rest : List Char}
    (isSign : sign.isDigit = false) : Nat.toDigits 10 value ≠ sign :: rest := by
  intro same
  have isDigit : sign.isDigit = true :=
    Double.isDigit_of_mem_toDigits (same ▸ List.mem_cons_self)
  rw [isDigit] at isSign
  contradiction

theorem powerText_of_nonneg (layout : NumberLayout) {exponent : Int} (nonneg : 0 ≤ exponent) :
    layout.powerText exponent =
      (if layout.plusSign then ['+'] else []) ++ Nat.toDigits 10 exponent.toNat := by
  rw [powerText, if_neg (not_lt.mpr nonneg)]
  split <;> rfl

/-- Only a negative power of ten has a minus. -/
theorem powerText_ne_minus (layout : NumberLayout) {exponent : Int} (nonneg : 0 ≤ exponent)
    (rest : List Char) : layout.powerText exponent ≠ '-' :: rest := by
  rw [layout.powerText_of_nonneg nonneg]
  split
  next => exact fun same => absurd (List.cons.inj same).1 (by decide)
  next => exact toDigits_ne_cons rfl

theorem powerText_injective (layout : NumberLayout) : Function.Injective layout.powerText := by
  have minus : ∀ {exponent : Int}, exponent < 0 →
      layout.powerText exponent = '-' :: Nat.toDigits 10 (-exponent).toNat :=
    fun negative => if_pos negative
  intro left right same
  rcases lt_or_ge left 0 with leftNegative | leftNonneg <;>
    rcases lt_or_ge right 0 with rightNegative | rightNonneg
  · rw [minus leftNegative, minus rightNegative] at same
    have digits := toDigits_injective (List.cons.inj same).2
    omega
  · rw [minus leftNegative] at same
    exact absurd same.symm (layout.powerText_ne_minus rightNonneg _)
  · rw [minus rightNegative] at same
    exact absurd same (layout.powerText_ne_minus leftNonneg _)
  · rw [layout.powerText_of_nonneg leftNonneg, layout.powerText_of_nonneg rightNonneg] at same
    have digits := toDigits_injective (List.append_cancel_left same)
    omega

theorem letter_not_mem_powerText (layout : NumberLayout) (exponent : Int) :
    'e' ∉ layout.powerText exponent := by
  have digits : ∀ value, 'e' ∉ Nat.toDigits 10 value := fun _ =>
    not_mem_of_digits rfl fun _ => Double.isDigit_of_mem_toDigits
  rw [powerText]
  split
  next => exact List.not_mem_cons_of_ne_of_not_mem (by decide) (digits _)
  next =>
      split
      next => exact List.not_mem_cons_of_ne_of_not_mem (by decide) (digits _)
      next => exact digits _

/-- Leaving out the point gives back the digits. -/
theorem filter_mantissaText {digits : List Char} (noPoint : '.' ∉ digits) :
    (mantissaText digits).filter (· ≠ '.') = digits := by
  have kept : ∀ {chars : List Char}, chars ⊆ digits → chars.filter (· ≠ '.') = chars := by
    intro chars within
    rw [List.filter_eq_self]
    exact fun char member => decide_eq_true fun same => noPoint (same ▸ within member)
  rw [mantissaText, List.filter_append, kept (List.take_subset 1 digits)]
  split
  next empty =>
      rw [List.filter_nil, List.append_nil]
      exact List.take_of_length_le (List.drop_eq_nil_iff.mp (List.isEmpty_iff.mp empty))
  next =>
      rw [List.filter_cons_of_neg (by decide), kept (List.drop_subset 1 digits),
        List.take_append_drop]

theorem letter_not_mem_mantissaText {digits : List Char} (noLetter : 'e' ∉ digits) :
    'e' ∉ mantissaText digits := by
  rw [mantissaText, List.mem_append, not_or]
  refine ⟨fun member => noLetter (List.mem_of_mem_take member), ?_⟩
  split
  next => exact List.not_mem_nil
  next =>
      exact List.not_mem_cons_of_ne_of_not_mem (by decide) fun member =>
        noLetter (List.mem_of_mem_drop member)

/-- Scientific text tells the digits and the power of ten. -/
theorem scientific_inj {other : ScientificDecimal} (spelled : decimal.Spelled)
    (otherSpelled : other.Spelled) (same : layout.scientific decimal = layout.scientific other) :
    decimal = other := by
  have noLetter := letter_not_mem_mantissaText (not_mem_of_digits rfl spelled.isDigit)
  have noLetterBehind := letter_not_mem_powerText layout decimal.exponent
  rw [scientific_eq, scientific_eq] at same
  have ⟨mantissa, _, power⟩ :=
    (List.append_cons_inj_of_notMem noLetter noLetterBehind).mp same
  have digits : decimal.digits = other.digits := by
    rw [← filter_mantissaText (not_mem_of_digits rfl spelled.isDigit), mantissa,
      filter_mantissaText (not_mem_of_digits rfl otherSpelled.isDigit)]
  obtain ⟨_, _⟩ := decimal
  cases digits
  cases powerText_injective layout power
  rfl

/-! ## Both forms -/

/-- The letter tells the forms apart. -/
theorem letter_not_mem_positional (spelled : decimal.Spelled) : 'e' ∉ positional decimal := by
  have noLetter : 'e' ∉ decimal.digits := not_mem_of_digits rfl spelled.isDigit
  have zeros : ∀ count, 'e' ∉ List.replicate count '0' := fun count member =>
    absurd (List.eq_of_mem_replicate member) (by decide)
  rw [positional]
  split
  next =>
      simp only [List.mem_append, not_or]
      exact ⟨⟨by decide, zeros _⟩, noLetter⟩
  next =>
      simp only [List.mem_append, not_or]
      refine ⟨⟨⟨fun member => noLetter (List.mem_of_mem_take member), zeros _⟩, by decide⟩, ?_⟩
      split
      next => decide
      next => exact fun member => noLetter (List.mem_of_mem_drop member)

theorem letter_mem_scientific (layout : NumberLayout) (decimal : ScientificDecimal) :
    'e' ∈ layout.scientific decimal := by
  rw [scientific_eq]
  exact List.mem_append_right _ List.mem_cons_self

/-- The text of the absolute value. -/
def magnitudeText (layout : NumberLayout) (decimal : ScientificDecimal) : List Char :=
  if layout.leastPositional ≤ decimal.exponent ∧ decimal.exponent ≤ layout.greatestPositional then
    positional decimal
  else layout.scientific decimal

theorem render_eq (layout : NumberLayout) (value : Double) :
    layout.render value =
      String.ofList
        (if value.negative then '-' :: layout.magnitudeText value.shortest
          else layout.magnitudeText value.shortest) := rfl

/-- The text of an absolute value starts with a digit. -/
theorem magnitudeText_ne_minus (spelled : decimal.Spelled) (rest : List Char) :
    layout.magnitudeText decimal ≠ '-' :: rest := by
  obtain ⟨first, others, digits⟩ := List.exists_cons_of_ne_nil spelled.ne_nil
  have notMinus : first ≠ '-' := fun same =>
    absurd (spelled.isDigit first (digits ▸ List.mem_cons_self)) (same ▸ by decide)
  rw [magnitudeText]
  split
  next =>
      rw [positional]
      split
      next => simp
      next => simp [digits, notMinus]
  next => simp [scientific_eq, mantissaText, digits, notMinus]

/-- The text of an absolute value tells the number. -/
theorem number_eq_of_magnitudeText_eq {other : ScientificDecimal} (spelled : decimal.Spelled)
    (otherSpelled : other.Spelled)
    (same : layout.magnitudeText decimal = layout.magnitudeText other) :
    decimal.number = other.number := by
  rw [magnitudeText, magnitudeText] at same
  split at same <;> split at same
  next =>
      rw [← positionalNumber_positional spelled, same, positionalNumber_positional otherSpelled]
  next =>
      exact absurd (same ▸ layout.letter_mem_scientific other) (letter_not_mem_positional spelled)
  next =>
      exact absurd (same ▸ layout.letter_mem_scientific decimal)
        (letter_not_mem_positional otherSpelled)
  next => rw [scientific_inj spelled otherSpelled same]

variable {left right : Double}

/-- The text of a double tells its sign and its shortest decimal. -/
theorem eq_of_render_eq (same : layout.render left = layout.render right) :
    left.negative = right.negative ∧ left.shortest.number = right.shortest.number := by
  have leftSpelled := left.spelled_shortest
  have rightSpelled := right.spelled_shortest
  rw [render_eq, render_eq, String.ofList_inj] at same
  cases leftSign : left.negative <;> cases rightSign : right.negative <;>
    simp only [leftSign, rightSign, if_true, if_false, Bool.false_eq_true] at same
  · exact ⟨rfl, number_eq_of_magnitudeText_eq leftSpelled rightSpelled same⟩
  · exact absurd same (magnitudeText_ne_minus leftSpelled _)
  · exact absurd same.symm (magnitudeText_ne_minus rightSpelled _)
  · exact ⟨rfl, number_eq_of_magnitudeText_eq leftSpelled rightSpelled (List.cons.inj same).2⟩

end NumberLayout

/-! ## Doubles with one text -/

namespace Double

variable {left right : Double}

theorem number_shortest_of_isZero {value : Double} (zero : value.isZero = true) :
    value.shortest.number = 0 := by
  rw [shortest, if_pos zero, ScientificDecimal.number]
  have digits : Nat.ofDigitChars 10 ['0'] 0 = 0 := by decide
  rw [digits, Nat.cast_zero, zero_mul]

/-- The shortest decimal of a double that is not zero writes a positive number of its
rounding interval. -/
theorem Canonical.covers_number_shortest {value : Double} (canonical : value.Canonical)
    (nonzero : value.isZero = false) :
    0 < value.shortest.number ∧ value.Covers value.shortest.number := by
  have positive : 0 < value.significand := Nat.pos_of_ne_zero (ne_of_beq_false nonzero)
  obtain ⟨candidate, power, candidatePos, shortest, covers⟩ :=
    canonical.exists_covers_shortest positive
  rw [shortest, number_decimalOf candidatePos]
  exact ⟨by positivity, covers⟩

end Double

/-- Canonical doubles with one text are one number. -/
theorem NumberLayout.sameNumber_of_render_eq {layout : NumberLayout} {left right : Double}
    (leftCanonical : left.Canonical) (rightCanonical : right.Canonical)
    (same : layout.render left = layout.render right) : left.sameNumber right = true := by
  obtain ⟨sign, number⟩ := eq_of_render_eq same
  rw [Double.sameNumber, Bool.or_eq_true]
  cases leftZero : left.isZero <;> cases rightZero : right.isZero
  · have leftCovers := leftCanonical.covers_number_shortest leftZero
    have rightCovers := rightCanonical.covers_number_shortest rightZero
    have positive : ∀ {value : Double}, value.isZero = false → 0 < value.significand :=
      fun nonzero => Nat.pos_of_ne_zero (ne_of_beq_false nonzero)
    obtain ⟨exponent, significand⟩ := Double.eq_of_covers leftCanonical rightCanonical
      (positive leftZero) (positive rightZero) (number ▸ leftCovers.2) rightCovers.2
    left
    obtain ⟨_, _, _⟩ := left
    cases sign
    cases exponent
    cases significand
    exact beq_self_eq_true _
  · have nonzero := (leftCanonical.covers_number_shortest leftZero).1
    rw [number, Double.number_shortest_of_isZero rightZero] at nonzero
    exact absurd nonzero (lt_irrefl 0)
  · have nonzero := (rightCanonical.covers_number_shortest rightZero).1
    rw [← number, Double.number_shortest_of_isZero leftZero] at nonzero
    exact absurd nonzero (lt_irrefl 0)
  · exact Or.inr rfl

end WorkflowEditor
