import HoldoutLine.Proofs.Binary64.Order
import HoldoutLine.Proofs.Holdout.Partition

/-! # How many rows a share holds out

The size of the test part is the exact product of the share and the number of rows, rounded twice: to a double and
then to a count. Counts up to `2^53` are doubles themselves, so the first rounding never leaps over one of them, and
the size is one of the two counts next to the exact product (`floor_le_testSize`, `testSize_le_ceil`). Both roundings
keep the order of numbers, so more rows or a larger share never make the test part smaller.
-/

namespace HoldoutLine

namespace Binary64

section Counts

variable {count units : ℕ} {v : ℝ}

/-- The count that a number is rounded to: first to a double, then to the nearest count, an exact half going up. -/
noncomputable def roundedCount (v : ℝ) : ℕ := (round (rounded v)).toNat

private theorem roundedCount_eq (v : ℝ) : roundedCount v = ⌊rounded v + 1 / 2⌋₊ := by
  rw [roundedCount, round_eq, Int.floor_toNat]

private theorem roundedCount_mono : Monotone roundedCount := by
  intro u v le
  rw [roundedCount_eq, roundedCount_eq]
  exact Nat.floor_mono (add_le_add_left (rounded_mono le) _)

/-- Counts are doubles, so a number is not rounded beyond the counts next to it. -/
theorem floor_le_roundedCount (nonneg : 0 ≤ v) (few : v ≤ (2 ^ 53 : ℕ)) : ⌊v⌋₊ ≤ roundedCount v := by
  have line : OnLine ⌊v⌋₊ := onLine_natCast (Nat.floor_le_of_le few)
  have below : (⌊v⌋₊ : ℝ) ≤ rounded v := le_rounded line (Nat.floor_le nonneg)
  rw [roundedCount_eq]
  exact Nat.le_floor (by linarith)

private theorem roundedCount_le_ceil (few : v ≤ (2 ^ 53 : ℕ)) : roundedCount v ≤ ⌈v⌉₊ := by
  have line : OnLine ⌈v⌉₊ := onLine_natCast (Nat.ceil_le.mpr few)
  have above : rounded v ≤ ⌈v⌉₊ := rounded_le line (Nat.le_ceil v)
  rw [roundedCount_eq]
  refine Nat.lt_succ_iff.mp ((Nat.floor_lt' (Nat.succ_ne_zero _)).mpr ?_)
  push_cast
  linarith

private theorem roundHalfUp_eq_floor (num den : ℕ) (positive : 0 < den) :
    roundHalfUp num den = ⌊(num / den : ℝ) + 1 / 2⌋₊ := by
  have den_pos : (0 : ℝ) < den := by exact_mod_cast positive
  have shifted : (num / den : ℝ) + 1 / 2 = (2 * num + den : ℕ) / (2 * den : ℕ) := by
    push_cast
    field_simp
  rw [shifted, Nat.floor_div_eq_div, roundHalfUp]

private theorem onGrid_mul_shift (few : count ≤ 2 ^ 53) (power : ℕ) : OnGrid (count * (1 <<< power)) := by
  rw [Nat.one_shiftLeft]
  exact onGrid_mul_pow few power

private theorem onGrid_count (few : count ≤ 2 ^ 53) : OnGrid (count * unitsPerOne) := onGrid_mul_shift few 1074

private theorem count_lt_overflowUnits (few : count ≤ 2 ^ 53) : count * unitsPerOne < overflowUnits := by
  have small : (count : ℝ) ≤ 2 ^ (53 : ℤ) := by exact_mod_cast few
  have room : (2 : ℝ) ^ (53 : ℤ) < 2 ^ (1024 : ℤ) := zpow_lt_zpow_right₀ one_lt_two (by norm_num)
  have scaled : ((count * unitsPerOne : ℕ) : ℝ) * unit < overflowUnits * unit := by
    rw [Nat.cast_mul, mul_assoc, unitsPerOne_mul_unit, mul_one, overflowUnits_mul_unit]
    exact small.trans_lt room
  exact Nat.cast_lt.mp ((mul_lt_mul_iff_left₀ unit_pos).mp scaled)

/-- A count that is a double is not changed when it becomes one. -/
theorem nearestUnits_count (few : count ≤ 2 ^ 53) : nearestUnits (count * unitsPerOne) 1 = count * unitsPerOne := by
  rw [nearestUnits_eq_nearest _ one_pos, Nat.cast_one, div_one, nearest_of_onGrid (onGrid_count few)]

/-- A share of a count is rounded once, and there is room for it. -/
theorem scaleCount_share (proper : units < unitsPerOne) (few : count ≤ 2 ^ 53) :
    scaleCount count (.finite false units) = .finite false (nearest (units * count)) := by
  have ones_pos : 0 < unitsPerOne := Nat.zero_lt_of_lt proper
  have ones_ne : (unitsPerOne : ℝ) ≠ 0 := by exact_mod_cast ones_pos.ne'
  have product : ((units * (count * unitsPerOne) : ℕ) / unitsPerOne : ℝ) = units * count := by
    rw [← mul_assoc, Nat.cast_mul, mul_div_cancel_right₀ _ ones_ne, Nat.cast_mul]
  have room : nearest (units * count) < overflowUnits := by
    have small : units * count ≤ count * unitsPerOne := by
      rw [Nat.mul_comm]
      exact Nat.mul_le_mul_left count proper.le
    have nonneg : (0 : ℝ) ≤ units * count := mul_nonneg (Nat.cast_nonneg units) (Nat.cast_nonneg count)
    have le : nearest (units * count) ≤ nearest (count * unitsPerOne : ℕ) :=
      nearest_mono nonneg (by exact_mod_cast small)
    rw [nearest_of_onGrid (onGrid_count few)] at le
    exact le.trans_lt (count_lt_overflowUnits few)
  rw [scaleCount, nearestUnits_count few, nearestUnits_eq_nearest _ ones_pos, product, ofUnits, if_pos room]

end Counts

end Binary64

namespace HoldoutPlan

open Binary64

variable {plan smaller larger : HoldoutPlan} {total more : ℕ}

/-- A proper share is a number between nothing and everything. -/
theorem IsProper.real_bounds (proper : plan.IsProper) :
    0 < real plan.testFraction ∧ real plan.testFraction < 1 := by
  obtain ⟨units, parts, positive, short⟩ := proper
  rw [real_of_finite parts, if_neg Bool.false_ne_true, one_mul, ← unitsPerOne_mul_unit]
  exact ⟨mul_pos (by exact_mod_cast positive) unit_pos, mul_lt_mul_of_pos_right (by exact_mod_cast short) unit_pos⟩

theorem IsProper.isFinite (proper : plan.IsProper) : plan.testFraction.isFinite = true := by
  obtain ⟨units, parts, -⟩ := proper
  exact (isFinite_iff _).mpr ⟨_, _, parts⟩

private theorem share_nonneg (proper : plan.IsProper) (total : ℕ) : 0 ≤ real plan.testFraction * total :=
  mul_nonneg proper.real_bounds.1.le (Nat.cast_nonneg total)

private theorem share_le (proper : plan.IsProper) (total : ℕ) : real plan.testFraction * total ≤ total :=
  mul_le_of_le_one_left (Nat.cast_nonneg total) proper.real_bounds.2.le

/-- A share of all rows is within the counts that are doubles. -/
theorem share_le_of_few (proper : plan.IsProper) (few : total ≤ 2 ^ 53) :
    real plan.testFraction * total ≤ (2 ^ 53 : ℕ) :=
  (share_le proper total).trans (by exact_mod_cast few)

/-- The size of the test part is the exact share of the rows, rounded to a double and then to a count. -/
theorem testSize_eq (proper : plan.IsProper) (few : total ≤ 2 ^ 53) :
    plan.testSize total = roundedCount (real plan.testFraction * total) := by
  have share := share_nonneg proper total
  have atMost : roundedCount (real plan.testFraction * total) ≤ maxCount := by
    have ceil_le : ⌈real plan.testFraction * total⌉₊ ≤ 2 ^ 53 := Nat.ceil_le.mpr (share_le_of_few proper few)
    exact ((roundedCount_le_ceil (share_le_of_few proper few)).trans ceil_le).trans (by decide)
  obtain ⟨units, parts, positive, short⟩ := proper
  have units_eq : real plan.testFraction * total / unit = units * total := by
    rw [real_of_finite parts, if_neg Bool.false_ne_true, one_mul, mul_right_comm,
      mul_div_cancel_right₀ _ unit_pos.ne']
  have value : (nearest (units * total) / unitsPerOne : ℝ) = rounded (real plan.testFraction * total) := by
    rw [rounded_of_nonneg share, units_eq, unit, div_eq_mul_inv]
  have ones_pos : 0 < unitsPerOne := positive.trans short
  have count : roundHalfUp (nearest (units * total)) unitsPerOne = roundedCount (real plan.testFraction * total) := by
    rw [roundHalfUp_eq_floor _ _ ones_pos, value, roundedCount_eq]
  rw [testSize, parts, scaleCount_share short few, roundToCount, if_neg Bool.false_ne_true, count,
    Nat.min_eq_left atMost]

theorem floor_le_testSize (proper : plan.IsProper) (few : total ≤ 2 ^ 53) :
    ⌊real plan.testFraction * total⌋₊ ≤ plan.testSize total := by
  rw [testSize_eq proper few]
  exact floor_le_roundedCount (share_nonneg proper total) (share_le_of_few proper few)

theorem testSize_le_ceil (proper : plan.IsProper) (few : total ≤ 2 ^ 53) :
    plan.testSize total ≤ ⌈real plan.testFraction * total⌉₊ := by
  rw [testSize_eq proper few]
  exact roundedCount_le_ceil (share_le_of_few proper few)

private theorem testSize_le (proper : plan.IsProper) (few : total ≤ 2 ^ 53) : plan.testSize total ≤ total :=
  (testSize_le_ceil proper few).trans (Nat.ceil_le.mpr (share_le proper total))

/-- One of the two counts next to the exact share is less than one away from it. -/
theorem abs_testSize_sub_lt (proper : plan.IsProper) (few : total ≤ 2 ^ 53) :
    |(plan.testSize total : ℝ) - real plan.testFraction * total| < 1 := by
  have lower : (⌊real plan.testFraction * total⌋₊ : ℝ) ≤ plan.testSize total := by
    exact_mod_cast floor_le_testSize proper few
  have upper : (plan.testSize total : ℝ) ≤ ⌈real plan.testFraction * total⌉₊ := by
    exact_mod_cast testSize_le_ceil proper few
  rw [abs_sub_lt_iff]
  constructor
  · linarith [Nat.ceil_lt_add_one (share_nonneg proper total)]
  · linarith [Nat.lt_floor_add_one (real plan.testFraction * total)]

/-- A share that is at least as large, of at least as many rows, holds out at least as many. -/
theorem testSize_mono (properSmaller : smaller.IsProper) (properLarger : larger.IsProper)
    (raised : real smaller.testFraction ≤ real larger.testFraction) (grown : total ≤ more) (few : more ≤ 2 ^ 53) :
    smaller.testSize total ≤ larger.testSize more := by
  rw [testSize_eq properSmaller (grown.trans few), testSize_eq properLarger few]
  refine roundedCount_mono ?_
  have rows : (total : ℝ) ≤ more := by exact_mod_cast grown
  exact mul_le_mul raised rows (Nat.cast_nonneg total) properLarger.real_bounds.1.le

/-- A share is too large for a dataset exactly if it rounds to all of its rows. -/
theorem trainless_iff {dataset : Dataset} (proper : plan.IsProper) (few : dataset.size ≤ 2 ^ 53) :
    (∃ test, Holdout.ofDataset plan dataset =
        .error (.emptyPartition dataset.size plan.testFraction 0 test)) ↔
      plan.testSize dataset.size = dataset.size := by
  constructor
  · rintro ⟨test, refused⟩
    rcases Holdout.ofDataset_cases plan dataset with ⟨-, improper⟩ | ⟨-, -, empty⟩ | ⟨-, -, -, held⟩
    · cases refused.symm.trans improper
    · have left : dataset.size - plan.testSize dataset.size = 0 := by
        injection refused.symm.trans empty with partition
        injection partition with _ _ train
        exact train.symm
      exact le_antisymm (testSize_le proper few) (Nat.sub_eq_zero_iff_le.mp left)
    · cases refused.symm.trans held
  · intro all
    have empty := Holdout.ofDataset_of_empty proper (.inr all.ge)
    rw [all, Nat.sub_self] at empty
    exact ⟨_, empty⟩

/-- The size of the test part follows the share: for up to `2^53` rows it is at most all of them and less than one away
from the exact product, and neither more rows nor a larger share make it smaller. So a share leaves no training rows
only where it rounds to all rows. -/
theorem testSize_follows_share {few many : ℕ} (proper : smaller.IsProper) (alsoProper : larger.IsProper)
    (raised : smaller.testFraction ≤ larger.testFraction) (grown : few ≤ many) (exact : many ≤ 2 ^ 53) :
    smaller.testSize few ≤ few ∧
      |(smaller.testSize few : ℝ) - real smaller.testFraction * few| < 1 ∧
      smaller.testSize few ≤ smaller.testSize many ∧
      smaller.testSize few ≤ larger.testSize few ∧
      ∀ dataset : Dataset, dataset.size = few →
        ((∃ test, Holdout.ofDataset smaller dataset = .error (.emptyPartition few smaller.testFraction 0 test)) ↔
          smaller.testSize few = few) := by
  have short : few ≤ 2 ^ 53 := grown.trans exact
  have shares : real smaller.testFraction ≤ real larger.testFraction :=
    (le_iff_real proper.isFinite alsoProper.isFinite).mp raised
  refine ⟨testSize_le proper short, abs_testSize_sub_lt proper short, ?_, ?_, ?_⟩
  · exact testSize_mono proper proper le_rfl grown exact
  · exact testSize_mono proper alsoProper shares le_rfl short
  · rintro dataset rfl
    exact trainless_iff proper short

def threeRows : Dataset where
  predictorName := "x"
  targetName := "y"
  observations := [⟨1.0, 2.0⟩, ⟨2.0, 4.0⟩, ⟨3.0, 6.0⟩]
  observations_ne_nil := List.cons_ne_nil _ _
  all_finite := by decide +kernel

/-- A share that rounds to all of three rows. -/
def nineTenths : HoldoutPlan := { testFraction := 0.9 }

/-- The greatest share that is a double. -/
def nearlyAll : HoldoutPlan := { testFraction := 0.99999999999999988897769753748 }

theorem nineTenths_follows_share :
    nineTenths.IsProper ∧ nearlyAll.IsProper ∧ nineTenths.testFraction ≤ nearlyAll.testFraction ∧
      nineTenths.testSize 3 = 3 ∧ |((3 : ℕ) : ℝ) - real 0.9 * (3 : ℕ)| < 1 ∧
      3 ≤ nineTenths.testSize (2 ^ 53) ∧ 3 ≤ nearlyAll.testSize 3 ∧
      ∃ test, Holdout.ofDataset nineTenths threeRows = .error (.emptyPartition 3 0.9 0 test) := by
  have proper : nineTenths.IsProper := nineTenths.isProper_iff.mpr (by decide +kernel)
  have alsoProper : nearlyAll.IsProper := nearlyAll.isProper_iff.mpr (by decide +kernel)
  have raised : nineTenths.testFraction ≤ nearlyAll.testFraction := by decide +kernel
  have all : nineTenths.testSize 3 = 3 := by decide +kernel
  have grown : 3 ≤ 2 ^ 53 := by decide
  obtain ⟨-, close, more, larger, trainless⟩ := testSize_follows_share proper alsoProper raised grown le_rfl
  rw [all] at close more larger
  exact ⟨proper, alsoProper, raised, all, close, more, larger, (trainless threeRows rfl).mpr all⟩

end HoldoutPlan

end HoldoutLine
