import Mathlib
import WorkflowEditor.Decimal.Double

/-!
# One representative for every number

A significand and a power of two write most numbers in several ways.  Rounding always
gives the one with the greatest significand below `2 ^ 53`, unless the power of two is
the least already (`Double.canonical_of_ofRatio`).
-/

namespace WorkflowEditor

namespace Double

/-- The significand is below its bound, and it is at least half of it unless the power of
two is the least. -/
structure Canonical (value : Double) : Prop where
  below : value.significand < significandBound
  least : leastExponent ≤ value.exponent
  normal : value.exponent = leastExponent ∨ significandBound / 2 ≤ value.significand

theorem canonical_zero (negative : Bool) : (zero negative).Canonical where
  below := Nat.pos_of_ne_zero nofun
  least := le_refl leastExponent
  normal := Or.inl rfl

/-! ## Ratios -/

section Ratios

variable {numerator denominator : Nat}

theorem scaleRatio_pos (numerator : Nat) (power : Int) (positive : 0 < denominator) :
    0 < (scaleRatio numerator denominator power).2 := by
  rw [scaleRatio]
  split
  next => exact positive
  next => exact Nat.mul_pos positive (Nat.pow_pos (by decide))

/-- Scaling multiplies by the power of two. -/
theorem scaleRatio_eq (numerator denominator : Nat) (power : Int) :
    ((scaleRatio numerator denominator power).1 : ℚ) /
      (scaleRatio numerator denominator power).2 = numerator / denominator * 2 ^ power := by
  rw [scaleRatio]
  split
  next nonneg =>
      lift power to ℕ using nonneg
      rw [Int.toNat_natCast, Nat.pow_eq, zpow_natCast]
      push_cast
      ring
  next negative =>
      obtain ⟨opposite, rfl⟩ : ∃ opposite : ℕ, power = -opposite := ⟨(-power).toNat, by omega⟩
      rw [neg_neg, Int.toNat_natCast, Nat.pow_eq, zpow_neg, zpow_natCast]
      push_cast
      rw [div_mul_eq_div_div, div_eq_mul_inv (_ / _)]

theorem roundHalfEven_bounds (numerator denominator : Nat) :
    numerator / denominator ≤ roundHalfEven numerator denominator ∧
      roundHalfEven numerator denominator ≤ numerator / denominator + 1 := by
  rw [roundHalfEven]
  split
  next => omega
  next =>
      split
      next => omega
      next => omega

/-- The powers of two next to a positive ratio. -/
theorem floorLog2_bounds (numeratorPos : 0 < numerator) (denominatorPos : 0 < denominator) :
    (2 : ℚ) ^ floorLog2 numerator denominator ≤ numerator / denominator ∧
      (numerator / denominator : ℚ) < 2 ^ (floorLog2 numerator denominator + 1) := by
  let estimate : Int := (numerator.log2 : Int) - (denominator.log2 : Int)
  have two : (0 : ℚ) < 2 := by norm_num
  have denominatorPosQ : (0 : ℚ) < denominator := by exact_mod_cast denominatorPos
  -- the estimate is at most one too large
  have numeratorLow : (2 : ℚ) ^ numerator.log2 ≤ numerator := by
    exact_mod_cast Nat.log2_self_le numeratorPos.ne'
  have numeratorHigh : (numerator : ℚ) < 2 ^ (numerator.log2 + 1) := by
    exact_mod_cast Nat.lt_log2_self
  have denominatorLow : (2 : ℚ) ^ denominator.log2 ≤ denominator := by
    exact_mod_cast Nat.log2_self_le denominatorPos.ne'
  have denominatorHigh : (denominator : ℚ) < 2 ^ (denominator.log2 + 1) := by
    exact_mod_cast Nat.lt_log2_self
  have high : (numerator / denominator : ℚ) < 2 ^ (estimate + 1) := by
    have split : (2 : ℚ) ^ (estimate + 1) = 2 ^ (numerator.log2 + 1) / 2 ^ denominator.log2 := by
      rw [← zpow_natCast, ← zpow_natCast, ← zpow_sub₀ two.ne']
      congr 1
      push_cast
      omega
    rw [split]
    exact div_lt_div₀ numeratorHigh denominatorLow (by positivity) (by positivity)
  have low : (2 : ℚ) ^ (estimate - 1) ≤ numerator / denominator := by
    have split : (2 : ℚ) ^ (estimate - 1) = 2 ^ numerator.log2 / 2 ^ (denominator.log2 + 1) := by
      rw [← zpow_natCast, ← zpow_natCast, ← zpow_sub₀ two.ne']
      congr 1
      push_cast
      omega
    rw [split]
    exact div_le_div₀ (by positivity) numeratorLow denominatorPosQ denominatorHigh.le
  -- scaling by the estimate tells whether it is
  let scaled := scaleRatio numerator denominator (-estimate)
  have scaledPos : (0 : ℚ) < scaled.2 := by
    exact_mod_cast scaleRatio_pos numerator (-estimate) denominatorPos
  have reached : scaled.2 ≤ scaled.1 ↔ (2 : ℚ) ^ estimate ≤ numerator / denominator := by
    have ratio := scaleRatio_eq numerator denominator (-estimate)
    rw [← Nat.cast_le (α := ℚ), ← one_le_div scaledPos, ratio, zpow_neg,
      ← div_eq_mul_inv, one_le_div (by positivity)]
  rw [floorLog2]
  split
  next enough => exact ⟨reached.mp enough, high⟩
  next short =>
      refine ⟨low, ?_⟩
      rw [sub_add_cancel]
      exact not_le.mp (mt reached.mpr short)

/-- Scaled down to 53 digits or fewer, the whole part of a ratio is below the bound of a
significand. -/
theorem floor_scaleRatio_lt (numeratorPos : 0 < numerator) (denominatorPos : 0 < denominator)
    {exponent : Int} (enough : floorLog2 numerator denominator - 52 ≤ exponent) :
    (scaleRatio numerator denominator (-exponent)).1 /
      (scaleRatio numerator denominator (-exponent)).2 < significandBound := by
  have scaledPos := scaleRatio_pos numerator (-exponent) denominatorPos
  have ratio := scaleRatio_eq numerator denominator (-exponent)
  generalize scaleRatio numerator denominator (-exponent) = scaled at scaledPos ratio ⊢
  have ⟨_, high⟩ := floorLog2_bounds numeratorPos denominatorPos
  have small : (scaled.1 : ℚ) / scaled.2 < significandBound := by
    calc (scaled.1 : ℚ) / scaled.2
        = numerator / denominator * 2 ^ (-exponent) := ratio
      _ < 2 ^ (floorLog2 numerator denominator + 1) * 2 ^ (-exponent) := by gcongr
      _ = 2 ^ (floorLog2 numerator denominator + 1 + -exponent) :=
          (zpow_add₀ (by norm_num) _ _).symm
      _ ≤ 2 ^ (53 : ℤ) := zpow_le_zpow_right₀ (by norm_num) (by omega)
      _ = significandBound := by norm_num [significandBound]
  rw [div_lt_iff₀ (by exact_mod_cast scaledPos)] at small
  exact (Nat.div_lt_iff_lt_mul scaledPos).mpr (by exact_mod_cast small)

/-- Scaled to 53 digits, the whole part of a ratio is at least half of the bound. -/
theorem le_floor_scaleRatio (numeratorPos : 0 < numerator) (denominatorPos : 0 < denominator)
    {exponent : Int} (exact : exponent = floorLog2 numerator denominator - 52) :
    significandBound / 2 ≤ (scaleRatio numerator denominator (-exponent)).1 /
      (scaleRatio numerator denominator (-exponent)).2 := by
  have scaledPos := scaleRatio_pos numerator (-exponent) denominatorPos
  have ratio := scaleRatio_eq numerator denominator (-exponent)
  generalize scaleRatio numerator denominator (-exponent) = scaled at scaledPos ratio ⊢
  have ⟨low, _⟩ := floorLog2_bounds numeratorPos denominatorPos
  have digits : floorLog2 numerator denominator + -exponent = 52 := by omega
  have large : ((significandBound / 2 : Nat) : ℚ) ≤ scaled.1 / scaled.2 := by
    calc ((significandBound / 2 : Nat) : ℚ)
        = 2 ^ (floorLog2 numerator denominator + -exponent) := by
          rw [digits]
          norm_num [significandBound]
      _ = 2 ^ floorLog2 numerator denominator * 2 ^ (-exponent) := zpow_add₀ (by norm_num) _ _
      _ ≤ numerator / denominator * 2 ^ (-exponent) := by gcongr
      _ = scaled.1 / scaled.2 := ratio.symm
  rw [le_div_iff₀ (by exact_mod_cast scaledPos)] at large
  exact (Nat.le_div_iff_mul_le scaledPos).mpr (by exact_mod_cast large)

end Ratios

/-! ## Rounding -/

/-- What rounding gives is canonical. -/
theorem canonical_of_ofRatio {negative : Bool} {numerator denominator : Nat} {value : Double}
    (positive : 0 < denominator) (rounded : ofRatio negative numerator denominator = some value) :
    value.Canonical := by
  rw [ofRatio] at rounded
  split at rounded
  next =>
      cases rounded
      exact canonical_zero negative
  next nonzero =>
      have numeratorPos := Nat.pos_of_ne_zero nonzero
      dsimp only at rounded
      generalize exponentIs :
        max leastExponent (floorLog2 numerator denominator - 52) = exponent at rounded
      have least : leastExponent ≤ exponent := exponentIs ▸ le_max_left _ _
      have below := floor_scaleRatio_lt numeratorPos positive (exponentIs ▸ le_max_right _ _)
      have normal := (max_choice leastExponent (floorLog2 numerator denominator - 52)).imp
        exponentIs.symm.trans
        fun above => le_floor_scaleRatio numeratorPos positive (exponentIs.symm.trans above)
      generalize scaleRatio numerator denominator (-exponent) = scaled at rounded below normal
      have ⟨roundedLow, roundedHigh⟩ := roundHalfEven_bounds scaled.1 scaled.2
      split at rounded
      next =>
          obtain ⟨-, same⟩ := Option.ite_none_right_eq_some.mp rounded
          cases same
          exact ⟨Nat.div_lt_self (by decide) (by decide), by dsimp only; omega,
            Or.inr (le_refl _)⟩
      next notBound =>
          obtain ⟨-, same⟩ := Option.ite_none_right_eq_some.mp rounded
          cases same
          have atMost : roundHalfEven scaled.1 scaled.2 ≤ significandBound := by omega
          refine ⟨lt_of_le_of_ne atMost notBound, least, normal.imp_right fun half => ?_⟩
          exact half.trans roundedLow

end Double

end WorkflowEditor
