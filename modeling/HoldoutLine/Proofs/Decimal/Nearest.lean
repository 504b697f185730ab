import HoldoutLine.Decimal.Numeral
import HoldoutLine.Proofs.Binary64.Reals

/-! # The double nearest to a decimal

Reading `significand * 10^exponent` finds the double nearest to that number, however large or small the exponent is
(`nearest_eq_ofUnits`): where the library does not even form the power, the number is beyond the range or rounds to
zero. So what is read depends on the number only, not on how it is written (`nearest_congr`).
-/

namespace HoldoutLine.Numeral

open Binary64

/-- The number that a significand and a power of ten write. -/
noncomputable def decimal (significand : ℕ) (exponent : ℤ) : ℝ := significand * 10 ^ exponent

variable {significand other : ℕ} {exponent power : ℤ} {negative : Bool}

/-- A zero behind the digits makes the power one less. -/
theorem decimal_mul_pow (significand count : ℕ) (exponent : ℤ) :
    decimal (significand * 10 ^ count) exponent = decimal significand (exponent + count) := by
  rw [decimal, decimal, zpow_add₀ (by norm_num), zpow_natCast]
  push_cast
  ring

private theorem onGrid_shift (power : ℕ) : OnGrid (1 <<< power) := by
  rw [Nat.one_shiftLeft]
  exact onGrid_pow power

/-- A number that the range has no room for. -/
theorem ofUnits_nearest_of_large {v : ℝ} (large : (2 : ℝ) ^ (1024 : ℤ) ≤ v) :
    ofUnits negative (Binary64.nearest (v / unit)) = .infinite negative := by
  have grid : OnGrid overflowUnits := onGrid_shift 2098
  have units_le : (overflowUnits : ℝ) ≤ v / unit := by
    rw [le_div_iff₀ unit_pos, overflowUnits_mul_unit]
    exact large
  have reached := nearest_mono (Nat.cast_nonneg _) units_le
  rw [nearest_of_onGrid grid] at reached
  rw [ofUnits, if_neg (Nat.not_lt.mpr reached)]

/-- A number that is less than half of the least positive double. -/
theorem nearest_of_small {v : ℝ} (small : 2 * v < 1) : Binary64.nearest v = 0 := by
  have floor : ⌊v⌋₊ = 0 := Nat.floor_eq_zero.mpr (by linarith)
  have one : spacing 0 = 1 := by decide
  rw [Binary64.nearest, floor, one, Nat.cast_one, div_one, mul_one, halfEven, floor, Nat.cast_zero, sub_zero,
    if_pos small]

private theorem two_pow_le_ten_pow {small large : ℤ} (le : small ≤ large * 3) (nonneg : 0 ≤ large) :
    (2 : ℝ) ^ small ≤ 10 ^ large := by
  calc (2 : ℝ) ^ small ≤ 2 ^ (3 * large) := by
        gcongr
        · norm_num
        · linarith
    _ = 8 ^ large := by
        rw [zpow_mul]
        norm_num
    _ ≤ 10 ^ large := by
        obtain ⟨power, rfl⟩ := Int.eq_ofNat_of_zero_le nonneg
        rw [zpow_natCast, zpow_natCast]
        gcongr
        norm_num

private theorem decimal_large (nonzero : significand ≠ 0) (high : 400 < exponent) :
    (2 : ℝ) ^ (1024 : ℤ) ≤ decimal significand exponent := by
  have one_le : (1 : ℝ) ≤ significand := by exact_mod_cast Nat.one_le_iff_ne_zero.mpr nonzero
  calc (2 : ℝ) ^ (1024 : ℤ) ≤ 10 ^ exponent := two_pow_le_ten_pow (by omega) (by omega)
    _ ≤ significand * 10 ^ exponent := le_mul_of_one_le_left (by positivity) one_le

private theorem decimal_small (low : exponent < -(400 + significand.log2 : ℤ)) :
    2 * (decimal significand exponent / unit) < 1 := by
  have significand_lt : (significand : ℝ) < 2 ^ ((significand.log2 : ℤ) + 1) := by
    exact_mod_cast @Nat.lt_log2_self significand
  have power_le : (2 : ℝ) ^ (1076 + (significand.log2 : ℤ)) ≤ 10 ^ (-exponent) :=
    two_pow_le_ten_pow (by omega) (by omega)
  have ten_pos : (0 : ℝ) < 10 ^ exponent := by positivity
  rw [unit_eq, ← mul_div_assoc, div_lt_one (by positivity), decimal]
  calc 2 * (significand * (10 : ℝ) ^ exponent)
      < 2 * (2 ^ ((significand.log2 : ℤ) + 1) * 10 ^ exponent) := by gcongr
    _ = 2 ^ (-1074 : ℤ) * (2 ^ (1076 + (significand.log2 : ℤ)) * 10 ^ exponent) := by
        rw [← mul_assoc, ← mul_assoc, ← zpow_one_add₀ two_ne_zero, ← zpow_add₀ two_ne_zero]
        congr 2
        ring
    _ ≤ 2 ^ (-1074 : ℤ) * (10 ^ (-exponent) * 10 ^ exponent) := by gcongr
    _ = 2 ^ (-1074 : ℤ) := by rw [zpow_neg (10 : ℝ), inv_mul_cancel₀ ten_pos.ne', mul_one]

private theorem ofRatio_eq_ofUnits (num : ℕ) {den : ℕ} (positive : 0 < den) :
    ofRatio negative num den = ofUnits negative (Binary64.nearest (num / den / unit)) := by
  have units : ((num * unitsPerOne : ℕ) : ℝ) / den = num / den / unit := by
    rw [unit]
    push_cast
    field_simp
  rw [ofRatio, nearestUnits_eq_nearest _ positive, units]

/-- A decimal is read as the double nearest to its number. -/
theorem nearest_eq_ofUnits (negative : Bool) (significand : ℕ) (exponent : ℤ) :
    nearest negative significand exponent =
      ofUnits negative (Binary64.nearest (decimal significand exponent / unit)) := by
  unfold nearest
  split_ifs with zero high low nonneg
  · rw [zero, decimal, Nat.cast_zero, zero_mul, zero_div, nearest_zero]
    rfl
  · rw [ofUnits_nearest_of_large (decimal_large zero high)]
  · rw [nearest_of_small (decimal_small low)]
    rfl
  · obtain ⟨power, rfl⟩ := Int.eq_ofNat_of_zero_le nonneg
    have value : decimal significand power = ((significand * Nat.pow 10 power : ℕ) : ℝ) / (1 : ℕ) := by
      rw [decimal, zpow_natCast, Nat.pow_eq]
      push_cast
      rw [div_one]
    rw [value, Int.toNat_natCast, ofRatio_eq_ofUnits _ one_pos]
  · obtain ⟨power, same⟩ := Int.eq_ofNat_of_zero_le (a := -exponent) (by omega)
    have value : decimal significand exponent = significand / (Nat.pow 10 power : ℕ) := by
      rw [decimal, show exponent = -(power : ℤ) by omega, zpow_neg, zpow_natCast, Nat.pow_eq]
      push_cast
      rw [div_eq_mul_inv]
    have positive : 0 < Nat.pow 10 power := Nat.pow_pos (by decide)
    rw [value, same, Int.toNat_natCast, ofRatio_eq_ofUnits _ positive]

/-- Ways of writing one number are read alike. -/
theorem nearest_congr (same : decimal significand exponent = decimal other power) :
    nearest negative significand exponent = nearest negative other power := by
  rw [nearest_eq_ofUnits, nearest_eq_ofUnits, same]

end HoldoutLine.Numeral
