import HoldoutLine.Proofs.Assessment.Measures
import HoldoutLine.Proofs.Binary64.Order
import HoldoutLine.Proofs.Binary64.Sums

/-! # Measures that cannot have the wrong sign, and what a finite one shows

Sums of squares and of magnitudes never fall below zero, and R² never exceeds one, whatever overflows on the way: what
goes wrong then is an infinity or not a number. In the other direction a finite mean squared error shows that nothing
overflowed before it. The residuals are finite then, so the predictions and the coefficients of the line are; and
their squares are, so the residuals are too small for the sum of their magnitudes to overflow.
-/

namespace HoldoutLine

open Binary64

namespace Line

variable {line : Line Float} {row : Observation} {rows : List Observation}

/-- How far a row is above the line. -/
def residual (line : Line Float) (row : Observation) : Float := row.target - line.predict row.predictor

def predictAll (line : Line Float) (rows : List Observation) : List Float :=
  rows.map fun row => line.predict row.predictor

theorem squaredResiduals_predictAll (line : Line Float) (rows : List Observation) :
    Metrics.squaredResiduals (rows.map Observation.target) (line.predictAll rows) =
      total (-0.0) ((rows.map line.residual).map fun r => r * r) := by
  rw [Metrics.squaredResiduals, predictAll, List.zipWith_map, List.zipWith_self, List.map_map]
  rfl

private theorem absoluteResiduals_predictAll (line : Line Float) (rows : List Observation) :
    Metrics.absoluteResiduals (rows.map Observation.target) (line.predictAll rows) =
      total (-0.0) ((rows.map line.residual).map Float.abs) := by
  rw [Metrics.absoluteResiduals, predictAll, List.zipWith_map, List.zipWith_self, List.map_map]
  rfl

/-- A finite residual shows that the line and its prediction are finite. -/
theorem isFinite_of_residual (finite : (line.residual row).isFinite = true) :
    line.slope.isFinite = true ∧ line.intercept.isFinite = true ∧ (line.predict row.predictor).isFinite = true := by
  obtain ⟨-, predicted⟩ := isFinite_of_sub finite
  obtain ⟨product, intercept⟩ := isFinite_of_add predicted
  exact ⟨(isFinite_of_mul product).1, intercept, predicted⟩

/-- A finite sum of squares shows that no residual is too large for its square. -/
theorem residual_of_squaredResiduals
    (finite : (Metrics.squaredResiduals (rows.map Observation.target) (line.predictAll rows)).isFinite = true) :
    ∀ row ∈ rows, (line.residual row).isFinite = true ∧ |real (line.residual row)| < 2 ^ (512 : ℤ) := by
  rw [squaredResiduals_predictAll] at finite
  intro row member
  have squares := (isFinite_of_total finite).2
  exact abs_lt_of_isFinite_mul_self (squares _ (List.mem_map_of_mem (List.mem_map_of_mem member)))

/-- So nothing of the line has overflowed. -/
theorem isFinite_of_squaredResiduals (present : rows ≠ [])
    (finite : (Metrics.squaredResiduals (rows.map Observation.target) (line.predictAll rows)).isFinite = true) :
    line.slope.isFinite = true ∧ line.intercept.isFinite = true := by
  obtain ⟨row, rest, rfl⟩ := List.exists_cons_of_ne_nil present
  obtain ⟨slope, intercept, -⟩ := isFinite_of_residual (residual_of_squaredResiduals finite row List.mem_cons_self).1
  exact ⟨slope, intercept⟩

end Line

section Signs

variable {line : Line Float} {rows : List Observation} {xs actual : List Float} {share : Float}

private theorem notBelowZero_negZero : NotBelowZero (-0.0) := notBelowZero_iff.mpr (by decide +kernel)

private theorem notBelowZero_total {start : Float} (base : NotBelowZero start)
    (above : ∀ x ∈ xs, NotBelowZero x) : NotBelowZero (total start xs) := by
  induction xs generalizing start with
  | nil => exact base
  | cons x xs ih =>
    obtain ⟨first, rest⟩ := List.forall_mem_cons.mp above
    exact ih (base.add first) rest

private theorem notBelowZero_squaredResiduals (line : Line Float) (rows : List Observation) :
    NotBelowZero (Metrics.squaredResiduals (rows.map Observation.target) (line.predictAll rows)) := by
  rw [Line.squaredResiduals_predictAll]
  exact notBelowZero_total notBelowZero_negZero (List.forall_mem_map.mpr fun r _ => notBelowZero_mul_self r)

private theorem notBelowZero_absoluteResiduals (line : Line Float) (rows : List Observation) :
    NotBelowZero (Metrics.absoluteResiduals (rows.map Observation.target) (line.predictAll rows)) := by
  rw [Line.absoluteResiduals_predictAll]
  exact notBelowZero_total notBelowZero_negZero (List.forall_mem_map.mpr fun r _ => notBelowZero_abs r)

theorem squaredDeviations_eq_total (actual : List Float) :
    Metrics.squaredDeviations actual =
      total (-0.0) ((actual.map fun a => a - Scalar.mean actual).map fun d => d * d) := by
  rw [List.map_map]
  rfl

private theorem notBelowZero_squaredDeviations (actual : List Float) :
    NotBelowZero (Metrics.squaredDeviations actual) :=
  notBelowZero_total notBelowZero_negZero (List.forall_mem_map.mpr fun _ _ => notBelowZero_mul_self _)

/-- Either zero, and nothing else, is zero. -/
theorem isZero_iff (x : Float) : Scalar.isZero x = true ↔ x.isFinite = true ∧ real x = 0 := by
  by_cases finite : x.isFinite = true
  · rw [and_iff_right finite, ← real_zero]
    exact beq_iff_real finite isFinite_zero
  · refine iff_of_false ?_ fun zero => finite zero.1
    change ¬(Float.Model.UnpackedFloat.compare x.toModel.unpack (0.0 : Float).toModel.unpack == some .eq) = true
    rw [unpack_zero]
    rcases unpack_of_not_isFinite finite with notANumber | ⟨sign, infinite⟩
    · rw [notANumber]
      exact nofun
    · rw [infinite]
      cases sign <;> exact nofun

private theorem unpack_ne_zero_of_not_isZero {x : Float} (nonzero : ¬Scalar.isZero x = true) :
    ∀ sign, x.toModel.unpack ≠ .zero sign := by
  intro sign zero
  exact nonzero ((isZero_iff x).mpr (isFinite_of_unpack_zero zero))

/-- What is left of one is no more than one. -/
theorem not_one_lt_of_share
    (explained : Assessment.shareExplained (rows.map Observation.target) (line.predictAll rows) = .value share) :
    ¬1.0 < share := by
  rw [Assessment.shareExplained] at explained
  split_ifs at explained with flat
  cases explained
  exact not_one_lt_sub ((notBelowZero_squaredResiduals line rows).div (notBelowZero_squaredDeviations _)
    (unpack_ne_zero_of_not_isZero flat))

end Signs

namespace Assessment

variable {line : Line Float} {rows : List Observation}

private theorem map_actual_predict (line : Line Float) (rows : List Observation) :
    (predict line rows).map Prediction.actual = rows.map Observation.target := by
  rw [predict, List.map_map]
  rfl

private theorem map_predicted_predict (line : Line Float) (rows : List Observation) :
    (predict line rows).map Prediction.predicted = line.predictAll rows := by
  rw [predict, List.map_map]
  rfl

theorem measured_mse (line : Line Float) (rows : List Observation) :
    (measured line rows).mse =
      Metrics.squaredResiduals (rows.map Observation.target) (line.predictAll rows) / Float.ofNat rows.length := by
  simp only [measured, map_actual_predict, map_predicted_predict, List.length_map]
  rfl

private theorem measured_mae (line : Line Float) (rows : List Observation) :
    (measured line rows).mae =
      Metrics.absoluteResiduals (rows.map Observation.target) (line.predictAll rows) / Float.ofNat rows.length := by
  simp only [measured, map_actual_predict, map_predicted_predict, List.length_map]
  rfl

theorem measured_r2 (line : Line Float) (rows : List Observation) :
    (measured line rows).r2 = shareExplained (rows.map Observation.target) (line.predictAll rows) := by
  simp only [measured, map_actual_predict, map_predicted_predict]

theorem notBelowZero_mse (line : Line Float) (present : rows ≠ []) : NotBelowZero (measured line rows).mse := by
  rw [measured_mse]
  exact (notBelowZero_squaredResiduals line rows).div_ofNat (List.length_pos_iff.mpr present)

theorem notBelowZero_mae (line : Line Float) (present : rows ≠ []) : NotBelowZero (measured line rows).mae := by
  rw [measured_mae]
  exact (notBelowZero_absoluteResiduals line rows).div_ofNat (List.length_pos_iff.mpr present)

theorem isFinite_squaredResiduals_of_mse (finite : (measured line rows).mse.isFinite = true) :
    (Metrics.squaredResiduals (rows.map Observation.target) (line.predictAll rows)).isFinite = true := by
  rw [measured_mse] at finite
  exact isFinite_of_div finite

theorem isFinite_predictions_of_mse (finite : (measured line rows).mse.isFinite = true) :
    ∀ p ∈ (measured line rows).predictions, p.predicted.isFinite = true ∧ p.absError.isFinite = true := by
  rw [measured_predictions, predict]
  refine List.forall_mem_map.mpr fun row member => ?_
  have small := (Line.residual_of_squaredResiduals (isFinite_squaredResiduals_of_mse finite) row member).1
  exact ⟨(Line.isFinite_of_residual small).2.2, (abs_spec small).1⟩

theorem isFinite_rmse_of_mse (present : rows ≠ []) (finite : (measured line rows).mse.isFinite = true) :
    (measured line rows).rmse.isFinite = true := by
  have nonneg := (notBelowZero_iff_real finite).mp (notBelowZero_mse line present)
  exact (within_sqrt finite nonneg).1

/-- However many they are, residuals with finite squares have a finite mean magnitude. -/
theorem isFinite_mae_of_mse (present : rows ≠ []) (finite : (measured line rows).mse.isFinite = true) :
    (measured line rows).mae.isFinite = true := by
  have magnitudes : ∀ x ∈ (rows.map line.residual).map Float.abs,
      x.isFinite = true ∧ 0 ≤ real x ∧ real x < 2 ^ (512 : ℤ) := by
    refine List.forall_mem_map.mpr (List.forall_mem_map.mpr fun row member => ?_)
    obtain ⟨finiteRow, small⟩ := Line.residual_of_squaredResiduals (isFinite_squaredResiduals_of_mse finite) row member
    obtain ⟨finiteAbs, value⟩ := abs_spec finiteRow
    rw [value]
    exact ⟨finiteAbs, abs_nonneg _, small⟩
  rw [measured_mae, Line.absoluteResiduals_predictAll]
  exact isFinite_div_ofNat (isFinite_total_of_lt isFinite_negZero real_negZero magnitudes (by norm_num) (by norm_num))
    (List.length_pos_iff.mpr present)

end Assessment

end HoldoutLine
