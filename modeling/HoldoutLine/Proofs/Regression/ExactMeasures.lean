import HoldoutLine.Proofs.Assessment.Measures
import HoldoutLine.Proofs.Regression.ExactSums

/-! # The measures of fit over exact numbers

With exact numbers for doubles, the measures keep the textbook's laws. Both mean errors are means over the differences
between actual values and predictions, so that only perfect predictions have none, and the square of the absolute one
is no more than the squared one. R² is what the squared differences leave of the squared deviations: whatever
multiplies both leaves it alone (`rSquared_of_scaled`), so moving or scaling both columns does. Adjusting R² multiplies
what it lacks to one by more than one. `measures_related` collects these laws, and says of columns that cannot be
compared that none of the measures exists, over whatever numbers.
-/

namespace HoldoutLine.Metrics

section Incomparable

variable {α : Type} [Scalar α] {actual predicted : List α}

/-- What is missing where columns cannot be compared: every measure. -/
structure Unmeasured (actual predicted : List α) : Prop where
  squared : meanSquaredError? actual predicted = none
  absolute : meanAbsoluteError? actual predicted = none
  share? : rSquared? actual predicted = none
  share : ∃ cause, rSquared actual predicted = .error cause

private theorem unmeasured_of_incomparable (incomparable : actual.length ≠ predicted.length ∨ actual = []) :
    Unmeasured actual predicted := by
  have refused : ¬comparable actual predicted = true := by
    rw [comparable_iff]
    tauto
  have share : ∃ cause, rSquared actual predicted = .error cause := by
    rw [rSquared]
    by_cases same : actual.length = predicted.length
    · rw [if_neg (not_not.mpr same), incomparable.resolve_left (not_not.mpr same)]
      exact ⟨_, rfl⟩
    · exact ⟨_, if_pos same⟩
  refine ⟨if_neg refused, if_neg refused, ?_, share⟩
  obtain ⟨cause, failed⟩ := share
  rw [rSquared?, failed]
  exact ite_self none

end Incomparable

section Differences

variable {actual predicted : List ℚ}

/-- How far actual values are above their predictions. -/
def differences (actual predicted : List ℚ) : List ℚ := List.zipWith (· - ·) actual predicted

private theorem length_differences (same : actual.length = predicted.length) :
    (differences actual predicted).length = actual.length := by
  rw [differences, List.length_zipWith, ← same, min_self]

private theorem differences_ne_nil (same : actual.length = predicted.length) (present : actual ≠ []) :
    differences actual predicted ≠ [] := by
  rw [← List.length_pos_iff, length_differences same]
  exact List.length_pos_iff.mpr present

/-- Only perfect predictions do not differ anywhere. -/
theorem differences_eq_zero_iff (same : actual.length = predicted.length) :
    (∀ d ∈ differences actual predicted, d = 0) ↔ actual = predicted := by
  obtain ⟨points, rfl, rfl⟩ := exists_points same
  rw [differences, zipWith_columns, List.forall_mem_map, List.map_inj_left]
  exact forall₂_congr fun p _ => sub_eq_zero

private theorem differences_map_add (actual predicted : List ℚ) (c : ℚ) :
    differences (actual.map (· + c)) (predicted.map (· + c)) = differences actual predicted := by
  rw [differences, List.zipWith_map]
  simp only [add_sub_add_right_eq_sub]
  rfl

private theorem differences_map_mul (actual predicted : List ℚ) (c : ℚ) :
    differences (actual.map (c * ·)) (predicted.map (c * ·)) = (differences actual predicted).map (c * ·) := by
  rw [differences, differences, List.zipWith_map, List.map_zipWith]
  simp only [mul_sub]

private theorem squaredResiduals_eq_sum (actual predicted : List ℚ) :
    squaredResiduals actual predicted = ((differences actual predicted).map (· ^ 2)).sum := by
  rw [squaredResiduals, Scalar.sum_rat, differences, List.map_zipWith]
  simp only [Scalar.square, pow_two]

private theorem absoluteResiduals_eq_sum (actual predicted : List ℚ) :
    absoluteResiduals actual predicted = ((differences actual predicted).map abs).sum := by
  have magnitude : ∀ d : ℚ, Scalar.magnitude d = |d| := by
    intro d
    change (if 0 ≤ d then d else -d) = |d|
    split_ifs with nonneg
    · exact (abs_of_nonneg nonneg).symm
    · exact (abs_of_neg (not_le.mp nonneg)).symm
  rw [absoluteResiduals, Scalar.sum_rat, differences, List.map_zipWith]
  simp only [magnitude]

end Differences

section Errors

variable {actual predicted : List ℚ}

/-- The mean squared error is the mean of the squared differences. -/
theorem meanSquaredError?_eq (same : actual.length = predicted.length) (present : actual ≠ []) :
    meanSquaredError? actual predicted = some (average ((differences actual predicted).map (· ^ 2))) := by
  rw [meanSquaredError?, if_pos (comparable_iff.mpr ⟨same, present⟩), squaredResiduals_eq_sum, average, List.length_map,
    length_differences same]
  rfl

private theorem meanAbsoluteError?_eq (same : actual.length = predicted.length) (present : actual ≠ []) :
    meanAbsoluteError? actual predicted = some (average ((differences actual predicted).map abs)) := by
  rw [meanAbsoluteError?, if_pos (comparable_iff.mpr ⟨same, present⟩), absoluteResiduals_eq_sum, average,
    List.length_map, length_differences same]
  rfl

/-- How the mean squared and the mean absolute error of two columns are related. -/
structure ErrorsRelated (actual predicted : List ℚ) (squared absolute : ℚ) : Prop where
  squared_nonneg : 0 ≤ squared
  absolute_nonneg : 0 ≤ absolute
  sq_absolute_le : absolute ^ 2 ≤ squared
  squared_eq_zero_iff : squared = 0 ↔ actual = predicted
  absolute_eq_zero_iff : absolute = 0 ↔ actual = predicted

private theorem errorsRelated (same : actual.length = predicted.length) (present : actual ≠ []) :
    ErrorsRelated actual predicted (average ((differences actual predicted).map (· ^ 2)))
      (average ((differences actual predicted).map abs)) := by
  have squares : ∀ s ∈ (differences actual predicted).map (· ^ 2), 0 ≤ s :=
    List.forall_mem_map.mpr fun d _ => sq_nonneg d
  have magnitudes : ∀ m ∈ (differences actual predicted).map abs, 0 ≤ m :=
    List.forall_mem_map.mpr fun d _ => abs_nonneg d
  have some : ∀ f : ℚ → ℚ, (differences actual predicted).map f ≠ [] :=
    fun f => mt List.map_eq_nil_iff.mp (differences_ne_nil same present)
  constructor
  case squared_nonneg => exact average_nonneg squares
  case absolute_nonneg => exact average_nonneg magnitudes
  case sq_absolute_le =>
    have mean := sq_average_le (some abs)
    rw [List.map_map] at mean
    simpa only [Function.comp_def, sq_abs] using mean
  case squared_eq_zero_iff =>
    rw [average_eq_zero_iff squares (some _), List.forall_mem_map, ← differences_eq_zero_iff same]
    exact forall₂_congr fun d _ => sq_eq_zero_iff
  case absolute_eq_zero_iff =>
    rw [average_eq_zero_iff magnitudes (some _), List.forall_mem_map, ← differences_eq_zero_iff same]
    exact forall₂_congr fun d _ => abs_eq_zero

end Errors

section Share

variable {actual predicted : List ℚ}

/-- R² is what the squared differences leave of the squared deviations. -/
theorem rSquared_eq (same : actual.length = predicted.length) (present : actual ≠ []) :
    rSquared actual predicted =
      if centredSquares actual = 0 then .error (.undefinedMetric rSquaredName)
      else .ok (1 - ((differences actual predicted).map (· ^ 2)).sum / centredSquares actual) := by
  have isZero : Scalar.isZero (centredSquares actual) = true ↔ centredSquares actual = 0 := beq_iff_eq
  rw [Assessment.rSquared_of_comparable (comparable_iff.mpr ⟨same, present⟩), squaredResiduals_eq_sum,
    squaredDeviations_eq, if_congr isZero rfl rfl]
  rfl

/-- Columns that differ and deviate in proportion to others have their R². -/
theorem rSquared_of_scaled {others guesses : List ℚ} {k : ℚ} (same : actual.length = predicted.length)
    (present : actual ≠ []) (lengthActual : others.length = actual.length)
    (lengthPredicted : guesses.length = predicted.length) (nonzero : k ≠ 0)
    (deviate : centredSquares others = k * centredSquares actual)
    (differ : ((differences others guesses).map (· ^ 2)).sum = k * ((differences actual predicted).map (· ^ 2)).sum) :
    rSquared others guesses = rSquared actual predicted := by
  have presentOthers : others ≠ [] := by
    rw [← List.length_pos_iff, lengthActual]
    exact List.length_pos_iff.mpr present
  rw [rSquared_eq same present, rSquared_eq (by omega) presentOthers, deviate, differ, mul_div_mul_left _ _ nonzero]
  simp only [mul_eq_zero, nonzero, false_or]

/-- What R² is known by. -/
structure ShareRelated (actual predicted : List ℚ) : Prop where
  undefined_iff : rSquared actual predicted = .error (.undefinedMetric rSquaredName) ↔ ∀ u ∈ actual, ∀ v ∈ actual, u = v
  only_undefined : ∀ cause, rSquared actual predicted = .error cause → cause = .undefinedMetric rSquaredName
  defined : (¬∀ u ∈ actual, ∀ v ∈ actual, u = v) → ∃ share, rSquared actual predicted = .ok share
  le_one : ∀ share, rSquared actual predicted = .ok share → share ≤ 1
  eq_one_iff : ∀ share, rSquared actual predicted = .ok share → (share = 1 ↔ actual = predicted)
  of_mean : (∀ p ∈ predicted, p = average actual) → ∀ share, rSquared actual predicted = .ok share → share = 0
  moved : ∀ c, rSquared (actual.map (· + c)) (predicted.map (· + c)) = rSquared actual predicted
  scaled : ∀ c, c ≠ 0 → rSquared (actual.map (c * ·)) (predicted.map (c * ·)) = rSquared actual predicted

/-- The differences from the mean are the deviations. -/
theorem differences_of_mean (same : actual.length = predicted.length) (mean : ∀ p ∈ predicted, p = average actual) :
    ((differences actual predicted).map (· ^ 2)).sum = centredSquares actual := by
  obtain rfl : predicted = actual.map fun _ => average actual := by
    rw [List.map_const', same]
    exact List.eq_replicate_of_mem mean
  rw [differences, List.zipWith_map_right, List.zipWith_self, List.map_map, centredSquares]
  rfl

private theorem shareRelated (same : actual.length = predicted.length) (present : actual ≠ []) :
    ShareRelated actual predicted := by
  have share := rSquared_eq same present
  have answered : ∀ found, rSquared actual predicted = .ok found → centredSquares actual ≠ 0 ∧
      found = 1 - ((differences actual predicted).map (· ^ 2)).sum / centredSquares actual := by
    intro found defined
    rw [share] at defined
    split_ifs at defined with flat
    cases defined
    exact ⟨flat, rfl⟩
  constructor
  case undefined_iff =>
    rw [share, ← centredSquares_eq_zero_iff]
    split_ifs with flat
    · exact iff_of_true rfl flat
    · exact iff_of_false nofun flat
  case only_undefined =>
    intro cause failed
    rw [share] at failed
    split_ifs at failed
    cases failed
    rfl
  case defined =>
    intro varies
    rw [share, if_neg (mt centredSquares_eq_zero_iff.mp varies)]
    exact ⟨_, rfl⟩
  case le_one =>
    intro found defined
    obtain ⟨varies, rfl⟩ := answered found defined
    exact sub_le_self 1 (div_nonneg (sum_squares_nonneg _) (centredSquares_nonneg actual))
  case eq_one_iff =>
    intro found defined
    obtain ⟨varies, rfl⟩ := answered found defined
    rw [sub_eq_self, div_eq_zero_iff, or_iff_left varies, sum_squares_eq_zero_iff, differences_eq_zero_iff same]
  case of_mean =>
    intro mean found defined
    obtain ⟨varies, rfl⟩ := answered found defined
    rw [differences_of_mean same mean, div_self varies, sub_self]
  case moved =>
    intro c
    refine rSquared_of_scaled same present (List.length_map _) (List.length_map _) one_ne_zero ?_ ?_
    · rw [centredSquares_map_add, one_mul]
    · rw [differences_map_add, one_mul]
  case scaled =>
    intro c nonzero
    refine rSquared_of_scaled same present (List.length_map _) (List.length_map _) (pow_ne_zero 2 nonzero)
      (centredSquares_map_mul actual c) ?_
    rw [differences_map_mul, List.map_map, ← List.sum_map_mul_left]
    simp only [Function.comp_def, mul_pow]

end Share

section Adjustment

variable {points predictors : ℕ}

private theorem coefficients_le (predictors : ℕ) : coefficients predictors ≤ predictors + 1 := Nat.mod_le _ _

/-- With more points than coefficients, what R² lacks to one is multiplied. -/
theorem adjustedRSquared_eq (r2 : ℚ) (enough : predictors + 1 < points) :
    adjustedRSquared r2 points predictors = 1 - (1 - r2) * (points - 1) / (points - predictors - 1) := by
  have few := coefficients_le predictors
  rw [adjustedRSquared, if_neg (by omega)]
  rfl

/-- Adjusting takes from R², unless there is nothing missing. -/
theorem adjustedRSquared_le {r2 : ℚ} (le_one : r2 ≤ 1) (some : 1 ≤ predictors) (enough : predictors + 1 < points) :
    adjustedRSquared r2 points predictors ≤ r2 ∧ (adjustedRSquared r2 points predictors = r2 ↔ r2 = 1) := by
  have some' : (1 : ℚ) ≤ predictors := by exact_mod_cast some
  have enough' : (predictors + 1 : ℚ) < points := by exact_mod_cast enough
  have free : (0 : ℚ) < points - predictors - 1 := by linarith
  have taken : r2 - adjustedRSquared r2 points predictors = (1 - r2) * (predictors / (points - predictors - 1)) := by
    rw [adjustedRSquared_eq r2 enough]
    field_simp
    ring
  have factor : (0 : ℚ) < predictors / (points - predictors - 1) := div_pos (by linarith) free
  constructor
  · rw [← sub_nonneg, taken]
    exact mul_nonneg (by linarith) factor.le
  · rw [eq_comm, ← sub_eq_zero, taken, mul_eq_zero, or_iff_left factor.ne', sub_eq_zero, eq_comm]

end Adjustment

/-- Over exact numbers, columns of one length that are not empty have both mean errors, with the square of the absolute
one up to the squared one; they have an R² up to one unless the actual values are all the same; and adjusting takes
from R². Of columns that cannot be compared nothing is measured, over any numbers. -/
theorem measures_related :
    (∀ actual predicted : List ℚ, actual.length = predicted.length → actual ≠ [] →
      (∃ squared absolute, meanSquaredError? actual predicted = some squared ∧
        meanAbsoluteError? actual predicted = some absolute ∧ ErrorsRelated actual predicted squared absolute) ∧
      ShareRelated actual predicted) ∧
    (∀ (r2 : ℚ) (points predictors : ℕ), r2 ≤ 1 → 1 ≤ predictors → predictors + 1 < points →
      adjustedRSquared r2 points predictors ≤ r2 ∧ (adjustedRSquared r2 points predictors = r2 ↔ r2 = 1)) ∧
    (∀ (α : Type) [Scalar α] (actual predicted : List α), actual.length ≠ predicted.length ∨ actual = [] →
      Unmeasured actual predicted) ∧
    ∀ actual predicted : List Float, actual.length ≠ predicted.length ∨ actual = [] →
      rootMeanSquaredError? actual predicted = none := by
  refine ⟨?_, ?_, ?_, ?_⟩
  · intro actual predicted same present
    exact ⟨⟨_, _, meanSquaredError?_eq same present, meanAbsoluteError?_eq same present, errorsRelated same present⟩,
      shareRelated same present⟩
  · intro r2 points predictors le_one some enough
    exact adjustedRSquared_le le_one some enough
  · intro α _ actual predicted incomparable
    exact unmeasured_of_incomparable incomparable
  · intro actual predicted incomparable
    rw [rootMeanSquaredError?, (unmeasured_of_incomparable incomparable).squared]
    rfl

def fourActuals : List ℚ := [3, -1 / 2, 2, 7]

def fourGuesses : List ℚ := [5 / 2, 0, 2, 8]

theorem fourGuesses_measured :
    (fourActuals.length = fourGuesses.length ∧ fourActuals ≠ [] ∧
      ErrorsRelated fourActuals fourGuesses (3 / 8) (1 / 2) ∧ ∃ share, rSquared fourActuals fourGuesses = .ok share ∧
        share < 1 ∧ rSquared (fourActuals.map (2 * ·)) (fourGuesses.map (2 * ·)) = .ok share) ∧
      adjustedRSquared (1 / 2 : ℚ) 11 1 < 1 / 2 ∧ Unmeasured fourActuals fourActuals.tail := by
  obtain ⟨measured, adjusted, unmeasured, -⟩ := measures_related
  have same : fourActuals.length = fourGuesses.length := rfl
  have present : fourActuals ≠ [] := List.cons_ne_nil _ _
  have varies : ¬∀ u ∈ fourActuals, ∀ v ∈ fourActuals, u = v := by decide +kernel
  have imperfect : fourActuals ≠ fourGuesses := by decide +kernel
  obtain ⟨⟨squared, absolute, mse, mae, errors⟩, related⟩ := measured fourActuals fourGuesses same present
  have squared_eq : meanSquaredError? fourActuals fourGuesses = some (3 / 8) := by decide +kernel
  have absolute_eq : meanAbsoluteError? fourActuals fourGuesses = some (1 / 2) := by decide +kernel
  obtain rfl := Option.some_inj.mp (mse.symm.trans squared_eq)
  obtain rfl := Option.some_inj.mp (mae.symm.trans absolute_eq)
  obtain ⟨share, defined⟩ := related.defined varies
  have below : share < 1 := (related.le_one share defined).lt_of_ne (mt (related.eq_one_iff share defined).mp imperfect)
  obtain ⟨le, eq_iff⟩ := adjusted (1 / 2) 11 1 (by norm_num) le_rfl (by norm_num)
  refine ⟨⟨same, present, errors, share, defined, below, (related.scaled 2 two_ne_zero).trans defined⟩, ?_, ?_⟩
  · exact le.lt_of_ne (mt eq_iff.mp (by norm_num))
  · exact unmeasured ℚ fourActuals fourActuals.tail (.inl (by decide))

end HoldoutLine.Metrics
