import WorkflowEditor.Decimal.Shortest
import WorkflowEditor.Proofs.Decimal.Canonical

/-!
# Rounding intervals

The rounding intervals of different canonical doubles have no number in common: where
two of them touch, one of the two is open (`Double.eq_of_covers`).  The test whether a
decimal on a grid rounds back to the double is membership in its interval
(`Double.roundsBack_iff`).
-/

namespace WorkflowEditor

namespace Double

variable {value left right : Double} {number : ℚ} {power : Int}

/-! ## Intervals -/

/-- The absolute value. -/
def magnitude (value : Double) : ℚ := value.significand * 2 ^ value.exponent

/-- The lower end of the rounding interval. -/
def lowerEnd (value : Double) : ℚ := value.roundingInterval.1 * 2 ^ (value.exponent - 2)

/-- The upper end of the rounding interval. -/
def upperEnd (value : Double) : ℚ := value.roundingInterval.2.2 * 2 ^ (value.exponent - 2)

/-- The number is in the rounding interval, which holds its ends if the significand is
even. -/
def Covers (value : Double) (number : ℚ) : Prop :=
  if value.significand % 2 = 0 then value.lowerEnd ≤ number ∧ number ≤ value.upperEnd
  else value.lowerEnd < number ∧ number < value.upperEnd

theorem Covers.within (covers : value.Covers number) :
    value.lowerEnd ≤ number ∧ number ≤ value.upperEnd := by
  rw [Covers] at covers
  split at covers
  next => exact covers
  next => exact ⟨covers.1.le, covers.2.le⟩

theorem Covers.inside_of_odd (covers : value.Covers number) (odd : value.significand % 2 = 1) :
    value.lowerEnd < number ∧ number < value.upperEnd := by
  rwa [Covers, if_neg (by omega)] at covers

theorem quarter_unit (exponent : Int) : (4 : ℚ) * 2 ^ (exponent - 2) = 2 ^ exponent := by
  rw [zpow_sub₀ (by norm_num)]
  norm_num
  ring

theorem upperEnd_eq (value : Double) :
    value.upperEnd = (value.significand + 1 / 2) * 2 ^ value.exponent := by
  rw [upperEnd, roundingInterval, ← quarter_unit value.exponent]
  push_cast
  ring

/-- Only at the start of a binade the interval reaches down by a quarter of a unit. -/
theorem lowerEnd_eq (positive : 0 < value.significand) :
    value.lowerEnd =
      (value.significand -
        if value.significand = significandBound / 2 ∧ leastExponent < value.exponent then 1 / 4
        else 1 / 2) * 2 ^ value.exponent := by
  rw [lowerEnd, roundingInterval, ← quarter_unit value.exponent]
  dsimp only
  split
  next =>
      rw [Nat.cast_sub (by omega)]
      push_cast
      ring
  next =>
      rw [Nat.cast_sub (by omega)]
      push_cast
      ring

theorem le_lowerEnd (positive : 0 < value.significand) :
    (value.significand - 1 / 2) * 2 ^ value.exponent ≤ value.lowerEnd := by
  rw [lowerEnd_eq positive]
  split
  next => gcongr; norm_num
  next => exact le_refl _

/-- The interval of a double whose exponent is not the least is above the bound of the
intervals with smaller exponents. -/
theorem Canonical.le_lowerEnd (canonical : value.Canonical)
    (above : leastExponent < value.exponent) :
    (significandBound / 2 - 1 / 4 : ℚ) * 2 ^ value.exponent ≤ value.lowerEnd := by
  have half : significandBound / 2 ≤ value.significand :=
    canonical.normal.resolve_left above.ne'
  have positive : 0 < value.significand := lt_of_lt_of_le (by decide) half
  have bound : ((significandBound / 2 : Nat) : ℚ) = significandBound / 2 := by
    norm_num [significandBound]
  rw [lowerEnd_eq positive]
  split
  next start => rw [start.1, bound]
  next notStart =>
      have beyond : significandBound / 2 + 1 ≤ value.significand := by
        have other : value.significand ≠ significandBound / 2 := fun same =>
          notStart ⟨same, above⟩
        omega
      have beyondQ : ((significandBound / 2 : Nat) : ℚ) + 1 ≤ value.significand := by
        exact_mod_cast beyond
      refine mul_le_mul_of_nonneg_right ?_ (by positivity)
      linarith

/-- Of two canonical doubles the interval of the smaller is below the interval of the
other, and where they touch one of the two is open. -/
theorem Canonical.intervals_apart (leftCanonical : left.Canonical)
    (rightCanonical : right.Canonical) (positive : 0 < right.significand)
    (before : left.exponent < right.exponent ∨
      left.exponent = right.exponent ∧ left.significand < right.significand) :
    left.upperEnd < right.lowerEnd ∨
      left.upperEnd ≤ right.lowerEnd ∧
        (left.significand % 2 = 1 ∨ right.significand % 2 = 1) := by
  rw [upperEnd_eq]
  rcases before with lower | ⟨same, smaller⟩
  · have low := rightCanonical.le_lowerEnd (lt_of_le_of_lt leftCanonical.least lower)
    have unit : (2 : ℚ) * 2 ^ left.exponent ≤ 2 ^ right.exponent := by
      rw [← zpow_one_add₀ (by norm_num)]
      exact zpow_le_zpow_right₀ (by norm_num) (by omega)
    have bound : (significandBound - 1 / 2 : ℚ) * 2 ^ left.exponent ≤ right.lowerEnd := by
      calc (significandBound - 1 / 2 : ℚ) * 2 ^ left.exponent
          = (significandBound / 2 - 1 / 4) * (2 * 2 ^ left.exponent) := by ring
        _ ≤ (significandBound / 2 - 1 / 4) * 2 ^ right.exponent := by
            gcongr
            norm_num [significandBound]
        _ ≤ right.lowerEnd := low
    have below := leftCanonical.below
    rcases Nat.mod_two_eq_zero_or_one left.significand with even | odd
    · -- the bound is even, so an even significand is below it by two at least
      left
      have room : left.significand + 2 ≤ significandBound := by
        have evenBound : significandBound % 2 = 0 := by decide
        omega
      have roomQ : (left.significand : ℚ) + 2 ≤ significandBound := by exact_mod_cast room
      refine lt_of_lt_of_le ?_ bound
      gcongr
      linarith
    · right
      have roomQ : (left.significand : ℚ) + 1 ≤ significandBound := by exact_mod_cast below
      refine ⟨le_trans ?_ bound, Or.inl odd⟩
      gcongr
      linarith
  · have low := Double.le_lowerEnd positive
    rw [← same] at low
    have next : (left.significand : ℚ) + 1 ≤ right.significand := by exact_mod_cast smaller
    rcases Nat.lt_or_eq_of_le (Nat.succ_le_of_lt smaller) with beyond | adjacent
    · left
      have beyondQ : (left.significand : ℚ) + 2 ≤ right.significand := by exact_mod_cast beyond
      refine lt_of_lt_of_le ?_ low
      gcongr
      linarith
    · right
      refine ⟨le_trans ?_ low, by omega⟩
      gcongr
      linarith

theorem not_covers_of_before (leftCanonical : left.Canonical) (rightCanonical : right.Canonical)
    (positive : 0 < right.significand)
    (before : left.exponent < right.exponent ∨
      left.exponent = right.exponent ∧ left.significand < right.significand)
    (leftCovers : left.Covers number) : ¬right.Covers number := by
  intro rightCovers
  have high := leftCovers.within.2
  have low := rightCovers.within.1
  rcases leftCanonical.intervals_apart rightCanonical positive before with
    apart | ⟨touching, leftOdd | rightOdd⟩
  · linarith
  · have inside := (leftCovers.inside_of_odd leftOdd).2
    linarith
  · have inside := (rightCovers.inside_of_odd rightOdd).1
    linarith

/-- A number is in the interval of one canonical double only, up to the sign. -/
theorem eq_of_covers (leftCanonical : left.Canonical) (rightCanonical : right.Canonical)
    (leftPositive : 0 < left.significand) (rightPositive : 0 < right.significand)
    (leftCovers : left.Covers number) (rightCovers : right.Covers number) :
    left.exponent = right.exponent ∧ left.significand = right.significand := by
  by_contra different
  have ordered : (left.exponent < right.exponent ∨
      left.exponent = right.exponent ∧ left.significand < right.significand) ∨
      right.exponent < left.exponent ∨
      right.exponent = left.exponent ∧ right.significand < left.significand := by
    omega
  rcases ordered with before | after
  · exact not_covers_of_before leftCanonical rightCanonical rightPositive before leftCovers
      rightCovers
  · exact not_covers_of_before rightCanonical leftCanonical leftPositive after rightCovers
      leftCovers

/-! ## Grids of decimals -/

/-- A quarter of the double's unit in steps of the grid, as a numerator and a
denominator. -/
def gridUnit (value : Double) (power : Int) : Nat × Nat :=
  let binary := scaleRatio 1 1 (value.exponent - 2)
  if 0 ≤ power then (binary.1, binary.2 * Nat.pow 10 power.toNat)
  else (binary.1 * Nat.pow 10 (-power).toNat, binary.2)

/-- Whether the decimal on the grid is in the rounding interval. -/
def roundsBack (value : Double) (power : Int) (candidate : Nat) : Bool :=
  let unit := value.gridUnit power
  if value.significand % 2 = 0 then
    value.roundingInterval.1 * unit.1 ≤ candidate * unit.2 &&
      candidate * unit.2 ≤ value.roundingInterval.2.2 * unit.1
  else
    value.roundingInterval.1 * unit.1 < candidate * unit.2 &&
      candidate * unit.2 < value.roundingInterval.2.2 * unit.1

/-- The decimal on the grid that is next to the double and not above it. -/
def gridBelow (value : Double) (power : Int) : Nat :=
  value.roundingInterval.2.1 * (value.gridUnit power).1 / (value.gridUnit power).2

theorem gridUnit_pos (value : Double) (power : Int) : 0 < (value.gridUnit power).2 := by
  have binaryPos := scaleRatio_pos 1 (value.exponent - 2) Nat.one_pos
  rw [gridUnit]
  split
  next => exact Nat.mul_pos binaryPos (Nat.pow_pos (by decide))
  next => exact binaryPos

theorem gridUnit_eq (value : Double) (power : Int) :
    ((value.gridUnit power).1 : ℚ) / (value.gridUnit power).2 =
      2 ^ (value.exponent - 2) / 10 ^ power := by
  have binary := scaleRatio_eq 1 1 (value.exponent - 2)
  rw [Nat.cast_one, div_one, one_mul] at binary
  rw [gridUnit, ← binary]
  split
  next nonneg =>
      lift power to ℕ using nonneg
      rw [Int.toNat_natCast, Nat.pow_eq, zpow_natCast]
      push_cast
      rw [div_mul_eq_div_div]
  next negative =>
      obtain ⟨opposite, rfl⟩ : ∃ opposite : ℕ, power = -opposite := ⟨(-power).toNat, by omega⟩
      rw [neg_neg, Int.toNat_natCast, Nat.pow_eq, zpow_neg, zpow_natCast]
      push_cast
      rw [div_inv_eq_mul, div_mul_eq_mul_div]

/-- Comparing with a multiple of the unit is comparing on the grid. -/
theorem mul_unit_le_iff (value : Double) (power : Int) (count candidate : Nat) :
    (count * (value.gridUnit power).1 ≤ candidate * (value.gridUnit power).2 ↔
      (count : ℚ) * 2 ^ (value.exponent - 2) ≤ candidate * 10 ^ power) ∧
    (candidate * (value.gridUnit power).2 ≤ count * (value.gridUnit power).1 ↔
      (candidate : ℚ) * 10 ^ power ≤ count * 2 ^ (value.exponent - 2)) := by
  have unitPos : (0 : ℚ) < (value.gridUnit power).2 := by exact_mod_cast value.gridUnit_pos power
  have stepPos : (0 : ℚ) < 10 ^ power := by positivity
  have ratio := value.gridUnit_eq power
  rw [div_eq_div_iff unitPos.ne' stepPos.ne'] at ratio
  have left : (count : ℚ) * (value.gridUnit power).1 * 10 ^ power =
      count * 2 ^ (value.exponent - 2) * (value.gridUnit power).2 := by
    rw [mul_assoc, ratio, mul_assoc]
  have right : (candidate : ℚ) * (value.gridUnit power).2 * 10 ^ power =
      candidate * 10 ^ power * (value.gridUnit power).2 := mul_right_comm _ _ _
  rw [← Nat.cast_le (α := ℚ), ← Nat.cast_le (α := ℚ)]
  push_cast
  constructor
  · rw [← mul_le_mul_iff_left₀ stepPos, left, right, mul_le_mul_iff_left₀ unitPos]
  · rw [← mul_le_mul_iff_left₀ stepPos, left, right, mul_le_mul_iff_left₀ unitPos]

theorem roundsBack_iff (candidate : Nat) :
    value.roundsBack power candidate = true ↔ value.Covers (candidate * 10 ^ power) := by
  have lower := value.mul_unit_le_iff power value.roundingInterval.1 candidate
  have upper := value.mul_unit_le_iff power value.roundingInterval.2.2 candidate
  rw [roundsBack, Covers, lowerEnd, upperEnd]
  split
  next => rw [Bool.and_eq_true, decide_eq_true_eq, decide_eq_true_eq, lower.1, upper.2]
  next =>
      rw [Bool.and_eq_true, decide_eq_true_eq, decide_eq_true_eq, ← not_le, ← not_le, lower.2,
        upper.1, not_le, not_le]

/-- The double is between two neighbours on the grid. -/
theorem gridBelow_bounds (value : Double) (power : Int) :
    (value.gridBelow power : ℚ) * 10 ^ power ≤ value.magnitude ∧
      value.magnitude < (value.gridBelow power + 1) * 10 ^ power := by
  have middle : (value.roundingInterval.2.1 : ℚ) * 2 ^ (value.exponent - 2) = value.magnitude := by
    rw [magnitude, roundingInterval, ← quarter_unit value.exponent]
    push_cast
    ring
  have positive := value.gridUnit_pos power
  have below := (value.mul_unit_le_iff power value.roundingInterval.2.1
    (value.gridBelow power)).2
  have above := (value.mul_unit_le_iff power value.roundingInterval.2.1
    (value.gridBelow power + 1)).2
  rw [middle] at below above
  constructor
  · exact below.mp (Nat.div_mul_le_self _ _)
  · have beyond : ¬(value.gridBelow power + 1) * (value.gridUnit power).2 ≤
        value.roundingInterval.2.1 * (value.gridUnit power).1 :=
      not_le.mpr (Nat.lt_mul_of_div_lt (Nat.lt_succ_self _) positive)
    rw [above] at beyond
    push_cast at beyond
    exact not_le.mp beyond

end Double

end WorkflowEditor
