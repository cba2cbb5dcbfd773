import Mathlib.Algebra.Order.Field.Power
import ListQuery.Number.Value
import ListQuery.Proofs.Number.DecimalText

/-!
# The range of number literals

A decimal numeral is a number literal unless it is too large for binary floating point. The power of
ten of the leading digit decides that, except in the one decade that holds the threshold.
`isInRange_iff` says that the comparison is exact nevertheless.
-/

namespace ListQuery

open Text

namespace Decimal

/-- A number that is not zero is at least the power of ten of its leading digit. -/
theorem pow_leadingPower_le {coefficient : Nat} (positive : 0 < coefficient) (scale : Int) :
    (10 : ℚ) ^ leadingPower coefficient scale ≤ coefficient * 10 ^ scale := by
  have some : 0 < (ofNat coefficient).length :=
    List.length_pos_iff.2 (digitRun_ofNat coefficient).nonempty
  have power : leadingPower coefficient scale =
      (((ofNat coefficient).length - 1 : Nat) : Int) + scale := by
    unfold leadingPower
    omega
  have digits : 10 ^ ((ofNat coefficient).length - 1) ≤ coefficient := by
    by_cases single : (ofNat coefficient).length = 1
    · rw [single]
      exact positive
    · by_contra fewer
      have short := (length_ofNat_le_iff (by omega)).2 (Nat.lt_of_not_le fewer)
      omega
  rw [power, zpow_add₀ (by norm_num), zpow_natCast]
  refine mul_le_mul_of_nonneg_right ?_ (zpow_nonneg (by norm_num) _)
  exact_mod_cast digits

/-- A number is below the power of ten that follows the one of its leading digit. -/
theorem lt_pow_leadingPower (coefficient : Nat) (scale : Int) :
    (coefficient : ℚ) * 10 ^ scale < 10 ^ (leadingPower coefficient scale + 1) := by
  have some : 0 < (ofNat coefficient).length :=
    List.length_pos_iff.2 (digitRun_ofNat coefficient).nonempty
  have power : leadingPower coefficient scale + 1 = ((ofNat coefficient).length : Int) + scale := by
    unfold leadingPower
    omega
  have digits : coefficient < 10 ^ (ofNat coefficient).length :=
    (length_ofNat_le_iff some).1 (Nat.le_refl _)
  rw [power, zpow_add₀ (by norm_num), zpow_natCast]
  refine mul_lt_mul_of_pos_right ?_ (zpow_pos (by norm_num) _)
  exact_mod_cast digits

end Decimal

namespace Number

/-- The overflow threshold lies in the decade of `10 ^ 308`. -/
theorem overflowThreshold_bounds : 10 ^ 308 ≤ overflowThreshold ∧ overflowThreshold ≤ 10 ^ 309 := by
  decide +kernel

/-- The difference of two powers is the same number among the rationals. -/
theorem cast_pow_sub_pow (small large : Nat) (le : small ≤ large) :
    ((Nat.pow 2 large - Nat.pow 2 small : Nat) : ℚ) = 2 ^ large - 2 ^ small := by
  have larger : 2 ^ small ≤ 2 ^ large := Nat.pow_le_pow_right (by decide) le
  have cast : ((2 ^ large - 2 ^ small : Nat) : ℚ) = _ := Nat.cast_sub larger
  rwa [Nat.cast_pow, Nat.cast_pow, Nat.cast_ofNat] at cast

/-- The overflow threshold is half a unit of the last place above the largest number of binary
floating point with 64 bits. -/
theorem cast_overflowThreshold : (overflowThreshold : ℚ) = 2 ^ 1024 - 2 ^ 970 := by
  -- The exponents are hidden, so that nothing evaluates the powers.
  unfold overflowThreshold
  generalize isLarge : 1024 = large
  generalize isSmall : 970 = small
  exact cast_pow_sub_pow small large (by omega)

/-- A coefficient at a scale is in range exactly if its value is below the overflow threshold. -/
theorem isInRange_iff {coefficient : Nat} {scale : Int} :
    isInRange coefficient scale = true ↔
      (coefficient : ℚ) * 10 ^ scale < 2 ^ 1024 - 2 ^ 970 := by
  rw [← cast_overflowThreshold]
  obtain ⟨low, high⟩ := overflowThreshold_bounds
  have low : (10 : ℚ) ^ (308 : Int) ≤ overflowThreshold := by exact_mod_cast low
  have high : (overflowThreshold : ℚ) ≤ 10 ^ (309 : Int) := by exact_mod_cast high
  have grows : ∀ {a b : Int}, a ≤ b → (10 : ℚ) ^ a ≤ 10 ^ b :=
    fun le => zpow_le_zpow_right₀ (by norm_num) le
  unfold isInRange
  -- From here on the threshold is any number of that decade, so that nothing evaluates it.
  generalize overflowThreshold = threshold at low high ⊢
  rcases Nat.eq_zero_or_pos coefficient with rfl | positive
  · have above : (0 : ℚ) < threshold := lt_of_lt_of_le (zpow_pos (by norm_num) _) low
    simpa using above
  have atLeast := Decimal.pow_leadingPower_le positive scale
  have below := Decimal.lt_pow_leadingPower coefficient scale
  have nonzero : coefficient ≠ 0 := by omega
  generalize Decimal.leadingPower coefficient scale = power at atLeast below
  by_cases small : power < 308
  · have inside := below.trans_le ((grows (by omega)).trans low)
    simp [small, inside]
  by_cases large : 308 < power
  · have outside := (high.trans (grows (by omega))).trans atLeast
    simp [nonzero, small, large, outside]
  -- The leading digits agree, so the numbers themselves are compared, without a fraction.
  have shift : (10 : ℚ) ^ scale.natAbs = 10 ^ (scale.natAbs : Int) := (zpow_natCast _ _).symm
  by_cases whole : 0 ≤ scale
  · have isScale : (scale.natAbs : Int) = scale := by omega
    rw [isScale] at shift
    simp only [nonzero, small, large, whole, decide_false, Bool.or_self, Bool.false_eq_true,
      if_false, if_true, decide_eq_true_eq]
    rw [← shift]
    exact_mod_cast Iff.rfl
  · have isScale : (scale.natAbs : Int) = -scale := by omega
    rw [isScale, zpow_neg] at shift
    simp only [nonzero, small, large, whole, decide_false, Bool.or_self, Bool.false_eq_true,
      if_false, decide_eq_true_eq]
    rw [← lt_div_iff₀ (zpow_pos (by norm_num) _), div_eq_mul_inv, ← shift]
    exact_mod_cast Iff.rfl

end Number

end ListQuery
