import WorkflowEditor.Proofs.Decimal.Digits
import WorkflowEditor.Proofs.Decimal.Interval

/-!
# Seventeen digits suffice

A grid of decimals with seventeen digits is finer than the rounding interval of any
double, so one of the two neighbours of the double on the grid is in its interval.
The shortest decimal of a double that is not zero therefore lies in its interval
(`Double.Canonical.exists_covers_shortest`).
-/

namespace WorkflowEditor

namespace Double

variable {value : Double} {power : Int}

/-! ## One grid -/

/-- Of the two neighbours of the double on the grid the nearer one, and of two equally
near the even one. -/
def nearer? (value : Double) (power : Int) : Option Nat :=
  let unit := value.gridUnit power
  let below := value.gridBelow power
  let middle := value.roundingInterval.2.1 * unit.1
  let distanceBelow := middle - below * unit.2
  let distanceAbove := (below + 1) * unit.2 - middle
  if distanceBelow < distanceAbove then some below
  else if distanceAbove < distanceBelow then some (below + 1)
  else some (below + below % 2)

/-- Only the two neighbours of the double are tried. -/
theorem decimalOnGrid?_eq (value : Double) (power : Int) :
    value.decimalOnGrid? power =
      (match value.roundsBack power (value.gridBelow power) && 0 < value.gridBelow power,
          value.roundsBack power (value.gridBelow power + 1) with
        | true, true => value.nearer? power
        | true, false => some (value.gridBelow power)
        | false, true => some (value.gridBelow power + 1)
        | false, false => none).map fun candidate => decimalOf candidate power := rfl

theorem exists_nearer? (value : Double) (power : Int) :
    ∃ candidate, value.nearer? power = some candidate ∧
      (candidate = value.gridBelow power ∨ candidate = value.gridBelow power + 1) := by
  rw [nearer?]
  split
  next => exact ⟨_, rfl, Or.inl rfl⟩
  next =>
      split
      next => exact ⟨_, rfl, Or.inr rfl⟩
      next => exact ⟨_, rfl, by omega⟩

/-- What is found on a grid is in the rounding interval, and it is not zero. -/
theorem exists_covers_of_decimalOnGrid? {decimal : ScientificDecimal}
    (found : value.decimalOnGrid? power = some decimal) :
    ∃ candidate : Nat, 0 < candidate ∧ decimal = decimalOf candidate power ∧
      value.Covers (candidate * 10 ^ power) := by
  rw [decimalOnGrid?_eq] at found
  obtain ⟨candidate, chosen, rfl⟩ := Option.map_eq_some_iff.mp found
  suffices back : 0 < candidate ∧ value.roundsBack power candidate = true from
    ⟨candidate, back.1, rfl, (roundsBack_iff candidate).mp back.2⟩
  split at chosen
  next atBelow atAbove =>
      obtain ⟨back, positive⟩ := Bool.and_eq_true_iff.mp atBelow
      have positive : 0 < value.gridBelow power := of_decide_eq_true positive
      obtain ⟨nearer, same, rfl | rfl⟩ := value.exists_nearer? power
      · cases chosen.symm.trans same
        exact ⟨positive, back⟩
      · cases chosen.symm.trans same
        exact ⟨Nat.succ_pos _, atAbove⟩
  next atBelow _ =>
      cases chosen
      obtain ⟨back, positive⟩ := Bool.and_eq_true_iff.mp atBelow
      exact ⟨of_decide_eq_true positive, back⟩
  next _ atAbove =>
      cases chosen
      exact ⟨Nat.succ_pos _, atAbove⟩
  next => contradiction

/-- A grid with a neighbour in the rounding interval is not left without a decimal. -/
theorem isSome_decimalOnGrid? (positive : 0 < value.gridBelow power)
    (near : value.Covers (value.gridBelow power * 10 ^ power) ∨
      value.Covers ((value.gridBelow power + 1 : Nat) * 10 ^ power)) :
    (value.decimalOnGrid? power).isSome = true := by
  rw [decimalOnGrid?_eq, Option.isSome_map]
  split
  next =>
      obtain ⟨candidate, found, -⟩ := value.exists_nearer? power
      rw [found]
      rfl
  next => rfl
  next => rfl
  next notBelow notAbove =>
      rw [decide_eq_true positive, Bool.and_true] at notBelow
      rw [← roundsBack_iff, ← roundsBack_iff, notBelow, notAbove] at near
      exact absurd near (by decide)

/-! ## Fine grids -/

theorem covers_of_inside {number : ℚ} (above : value.lowerEnd < number)
    (below : number < value.upperEnd) : value.Covers number := by
  rw [Covers]
  split
  next => exact ⟨above.le, below.le⟩
  next => exact ⟨above, below⟩

theorem lowerEnd_lt_magnitude (positive : 0 < value.significand) :
    value.lowerEnd < value.magnitude := by
  have unit : (0 : ℚ) < 2 ^ value.exponent := by positivity
  rw [lowerEnd_eq positive, magnitude]
  gcongr
  split <;> norm_num

theorem magnitude_lt_upperEnd (value : Double) : value.magnitude < value.upperEnd := by
  rw [upperEnd_eq, magnitude]
  gcongr
  norm_num

/-- A grid that is finer than the rounding interval has a neighbour of the double in it. -/
theorem covers_gridBelow_or (positive : 0 < value.significand)
    (finer : (10 : ℚ) ^ power < value.upperEnd - value.lowerEnd) :
    value.Covers (value.gridBelow power * 10 ^ power) ∨
      value.Covers ((value.gridBelow power + 1 : Nat) * 10 ^ power) := by
  have ⟨below, above⟩ := value.gridBelow_bounds power
  have lower := lowerEnd_lt_magnitude positive
  have upper := value.magnitude_lt_upperEnd
  by_cases reached : value.lowerEnd < value.gridBelow power * 10 ^ power
  · exact Or.inl (covers_of_inside reached (lt_of_le_of_lt below upper))
  · right
    push_cast
    apply covers_of_inside (lower.trans above)
    linarith

/-- The interval of a double is wider than a ten-quadrillionth of the double. -/
theorem Canonical.magnitude_lt_width (canonical : value.Canonical)
    (positive : 0 < value.significand) :
    value.magnitude < 10 ^ 16 * (value.upperEnd - value.lowerEnd) := by
  have unit : (0 : ℚ) < 2 ^ value.exponent := by positivity
  have below : (value.significand : ℚ) < significandBound := by exact_mod_cast canonical.below
  rw [upperEnd_eq, lowerEnd_eq positive, magnitude, ← sub_mul, ← mul_assoc]
  gcongr
  split
  next start =>
      rw [start.1]
      norm_num [significandBound]
  next =>
      norm_num [significandBound] at below ⊢
      linarith

/-! ## Seventeen digits -/

/-- A ratio is at least the power of ten that the digits of its scaled whole part tell. -/
theorem pow_length_toDigits_le {numerator denominator : Nat} (shift : Nat)
    (positive : 0 < denominator)
    (bounded : denominator ≤ numerator * Nat.pow 10 shift) :
    (10 : ℚ) ^
        (((Nat.toDigits 10 (numerator * Nat.pow 10 shift / denominator)).length : Int) -
          (shift + 1 : Nat)) ≤
      numerator / denominator := by
  have positiveQ : (0 : ℚ) < denominator := by exact_mod_cast positive
  generalize whole : numerator * Nat.pow 10 shift / denominator = quotient
  have quotientPos : 0 < quotient := whole ▸ Nat.div_pos bounded positive
  obtain ⟨fewer, length⟩ : ∃ fewer, (Nat.toDigits 10 quotient).length = fewer + 1 :=
    Nat.exists_eq_add_one.mpr Nat.length_toDigits_pos
  have digits : 10 ^ fewer ≤ quotient := by
    by_contra! small
    rcases Nat.eq_zero_or_pos fewer with rfl | several
    · omega
    · have short := (Nat.length_toDigits_le_iff (by decide) several).mpr small
      omega
  have scaled : 10 ^ fewer * denominator ≤ numerator * 10 ^ shift :=
    (Nat.le_div_iff_mul_le positive).mp (whole ▸ digits)
  have power : ((fewer + 1 : Nat) : Int) - (shift + 1 : Nat) = fewer - shift := by
    push_cast
    ring
  rw [length, power, zpow_sub₀ (by norm_num), zpow_natCast, zpow_natCast, le_div_iff₀ positiveQ,
    div_mul_eq_mul_div, div_le_iff₀ (by positivity)]
  exact_mod_cast scaled

/-- The power of ten of the first digit does not exceed the ratio. -/
theorem floorLog10_le {numerator denominator : Nat} (positive : 0 < denominator)
    (bounded : denominator ≤ numerator * Nat.pow 10 400) :
    (10 : ℚ) ^ floorLog10 numerator denominator ≤ numerator / denominator := by
  have general := pow_length_toDigits_le 400 positive bounded
  unfold floorLog10
  exact general

theorem two_pow_le_ten_pow (few many : Nat) (fewer : few ≤ 3 * many) :
    Nat.pow 2 few ≤ Nat.pow 10 many := by
  calc 2 ^ few
      ≤ 2 ^ (3 * many) := Nat.pow_le_pow_right (by decide) fewer
    _ = (2 ^ 3) ^ many := pow_mul 2 3 many
    _ ≤ 10 ^ many := Nat.pow_le_pow_left (by decide) many

/-- A double that is not zero is above `10 ^ -400`. -/
theorem Canonical.ratio_bounded (canonical : value.Canonical) (positive : 0 < value.significand) :
    value.ratio.2 ≤ value.ratio.1 * Nat.pow 10 400 := by
  have least := canonical.least
  rw [leastExponent] at least
  rw [ratio, scaleRatio]
  split
  next =>
      have scaled : 0 < value.significand * Nat.pow 2 value.exponent.toNat :=
        Nat.mul_pos positive (Nat.pow_pos (by decide))
      exact Nat.mul_pos scaled (Nat.pow_pos (by decide))
  next =>
      have small : Nat.pow 2 (-value.exponent).toNat ≤ Nat.pow 10 400 :=
        two_pow_le_ten_pow _ 400 (by omega)
      rw [one_mul]
      exact small.trans (Nat.le_mul_of_pos_left _ positive)

theorem ratio_eq (value : Double) : (value.ratio.1 : ℚ) / value.ratio.2 = value.magnitude := by
  rw [ratio, scaleRatio_eq, Nat.cast_one, div_one, magnitude]

/-- The last grid, of seventeen digits, is not left without a decimal. -/
theorem Canonical.isSome_lastGrid (canonical : value.Canonical)
    (positive : 0 < value.significand) :
    (value.decimalOnGrid? (floorLog10 value.ratio.1 value.ratio.2 - (16 : Nat))).isSome = true := by
  have ratioPos : 0 < value.ratio.2 := scaleRatio_pos _ _ Nat.one_pos
  have leading := floorLog10_le ratioPos (canonical.ratio_bounded positive)
  rw [ratio_eq] at leading
  generalize floorLog10 value.ratio.1 value.ratio.2 = first at leading ⊢
  have step : (10 : ℚ) ^ (first - (16 : Nat)) * 10 ^ 16 = 10 ^ first := by
    rw [← zpow_natCast (10 : ℚ) 16, ← zpow_add₀ (by norm_num), sub_add_cancel]
  have width := canonical.magnitude_lt_width positive
  have finer : (10 : ℚ) ^ (first - (16 : Nat)) < value.upperEnd - value.lowerEnd := by
    linarith
  refine isSome_decimalOnGrid? (Nat.pos_of_ne_zero fun none => ?_)
    (covers_gridBelow_or positive finer)
  -- the first digit alone is above the step of the grid
  have above := (value.gridBelow_bounds (first - (16 : Nat))).2
  have stepPos : (0 : ℚ) < 10 ^ (first - (16 : Nat)) := by positivity
  rw [none, Nat.cast_zero, zero_add, one_mul] at above
  linarith

/-- The shortest decimal of a double that is not zero lies in its rounding interval. -/
theorem Canonical.exists_covers_shortest (canonical : value.Canonical)
    (positive : 0 < value.significand) :
    ∃ (candidate : Nat) (power : Int), 0 < candidate ∧
      value.shortest = decimalOf candidate power ∧ value.Covers (candidate * 10 ^ power) := by
  have notZero : value.isZero = false := beq_false_of_ne positive.ne'
  rw [shortest, notZero, if_neg Bool.false_ne_true]
  dsimp only
  cases found : List.findSome? value.decimalOnGrid? _ with
  | none =>
      have missing := List.findSome?_eq_none_iff.mp found
        (floorLog10 value.ratio.1 value.ratio.2 - (16 : Nat))
        (List.mem_map.mpr ⟨16, by decide, rfl⟩)
      have last := canonical.isSome_lastGrid positive
      rw [missing] at last
      contradiction
  | some decimal =>
      obtain ⟨power, -, onGrid⟩ := List.exists_of_findSome?_eq_some found
      obtain ⟨candidate, nonzero, rfl, covers⟩ := exists_covers_of_decimalOnGrid? onGrid
      exact ⟨candidate, power, nonzero, rfl, covers⟩

end Double

end WorkflowEditor
