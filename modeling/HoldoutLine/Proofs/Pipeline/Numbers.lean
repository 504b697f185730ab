import HoldoutLine.Proofs.Binary64.Extended
import HoldoutLine.Proofs.Pipeline.Accounting
import HoldoutLine.Proofs.Regression.Magnitudes

/-! # When a report presents numbers

A pass that succeeds may still have overflowed: training looks at the spread of the predictors only, and nothing looks
at the sums that the targets go into. What comes out then is an infinity or not a number, never a number with the
wrong sign. `report_presents_numbers` says where to look: if the mean squared error and the values of R² are finite,
everything is. Moderate values always come out that way.
-/

namespace HoldoutLine

open Binary64

/-- What a report presents as a result is a number of the right sign. -/
structure Report.PresentsNumbers (outcome : Report) : Prop where
  slope : outcome.fit.line.slope.isFinite = true
  intercept : outcome.fit.line.intercept.isFinite = true
  predictions : ∀ p ∈ outcome.assessment.predictions, p.predicted.isFinite = true ∧ p.absError.isFinite = true
  mse : outcome.assessment.mse.isFinite = true ∧ 0.0 ≤ outcome.assessment.mse
  rmse : outcome.assessment.rmse.isFinite = true ∧ 0.0 ≤ outcome.assessment.rmse
  mae : outcome.assessment.mae.isFinite = true ∧ 0.0 ≤ outcome.assessment.mae
  r2 : ∀ share, outcome.assessment.r2 = .value share → share.isFinite = true ∧ share ≤ 1.0
  training_r2 : ∀ share, outcome.fit.r2 = some share → share.isFinite = true ∧ share ≤ 1.0

/-- No measure is a number of the wrong sign. -/
structure Report.KeepsSigns (outcome : Report) : Prop where
  mse : ¬outcome.assessment.mse < 0.0
  rmse : ¬outcome.assessment.rmse < 0.0
  mae : ¬outcome.assessment.mae < 0.0
  r2 : ∀ share, outcome.assessment.r2 = .value share → ¬1.0 < share
  training_r2 : ∀ share, outcome.fit.r2 = some share → ¬1.0 < share

/-- The squares have not overflowed, and neither has a share of them. -/
structure Report.HasFiniteSquares (outcome : Report) : Prop where
  mse : outcome.assessment.mse.isFinite = true
  r2 : ∀ share, outcome.assessment.r2 = .value share → share.isFinite = true
  training_r2 : ∀ share, outcome.fit.r2 = some share → share.isFinite = true

/-- Up to `2^40` rows of values that are zero or of a magnitude from `2^-40` to `2^40`. -/
structure Dataset.IsModerate (dataset : Dataset) : Prop where
  size : dataset.size ≤ 2 ^ 40
  rows : ∀ row ∈ dataset.observations, row.isModerate = true

namespace Pipeline

variable {dataset : Dataset} {plan : HoldoutPlan}

/-- The R² of a fit is the one of its line on the training rows. -/
theorem share_of_fitted {rows : List Observation} {share : Float} (shown : (FittedLine.fitted rows).r2 = some share) :
    Assessment.shareExplained (rows.map Observation.target) ((FittedLine.fitted rows).line.predictAll rows) =
      .value share := by
  have columns : FittedLine.fittedValues (FittedLine.fitted rows).line (rows.map Observation.predictor) =
      (FittedLine.fitted rows).line.predictAll rows := List.map_map
  change Metrics.rSquared? (rows.map Observation.target)
    (FittedLine.fittedValues (FittedLine.fitted rows).line (rows.map Observation.predictor)) = some share at shown
  rw [columns, Metrics.rSquared?, List.length_map] at shown
  split_ifs at shown with few
  have comparable : Metrics.comparable (rows.map Observation.target)
      ((FittedLine.fitted rows).line.predictAll rows) = true := by
    have present : rows ≠ [] := by
      rintro rfl
      exact few (by decide)
    simp [Metrics.comparable, Line.predictAll, present]
  rw [Assessment.rSquared_of_comparable comparable] at shown
  rw [Assessment.shareExplained]
  split_ifs at shown ⊢ with flat
  · cases shown
  · cases shown
    rfl

private theorem keepsSigns_of_report {outcome : Report} (reported : report dataset plan = .ok outcome) :
    outcome.KeepsSigns := by
  obtain ⟨holdout, held, -, rfl⟩ := held_of_report reported
  have present := Holdout.test_ne_nil held
  constructor
  case mse => exact notBelowZero_iff.mp (Assessment.notBelowZero_mse _ present)
  case rmse => exact notBelowZero_iff.mp (notBelowZero_sqrt _)
  case mae => exact notBelowZero_iff.mp (Assessment.notBelowZero_mae _ present)
  case r2 =>
    intro share shown
    exact not_one_lt_of_share ((Assessment.measured_r2 _ _).symm.trans shown)
  case training_r2 => exact fun share shown => not_one_lt_of_share (share_of_fitted shown)

/-- Squares that have not overflowed show that nothing else has. -/
theorem presentsNumbers_iff {outcome : Report} (reported : report dataset plan = .ok outcome) :
    outcome.PresentsNumbers ↔ outcome.HasFiniteSquares := by
  have signs := keepsSigns_of_report reported
  obtain ⟨holdout, held, -, rfl⟩ := held_of_report reported
  have present := Holdout.test_ne_nil held
  constructor
  · exact fun presents => ⟨presents.mse.1, fun share shown => (presents.r2 share shown).1,
      fun share shown => (presents.training_r2 share shown).1⟩
  · rintro ⟨mse, r2, training_r2⟩
    have line := Line.isFinite_of_squaredResiduals present (Assessment.isFinite_squaredResiduals_of_mse mse)
    have rmse := Assessment.isFinite_rmse_of_mse present mse
    have mae := Assessment.isFinite_mae_of_mse present mse
    constructor
    case slope => exact line.1
    case intercept => exact line.2
    case predictions => exact Assessment.isFinite_predictions_of_mse mse
    case mse => exact ⟨mse, (not_lt_iff_le mse isFinite_zero).mp signs.mse⟩
    case rmse => exact ⟨rmse, (not_lt_iff_le rmse isFinite_zero).mp signs.rmse⟩
    case mae => exact ⟨mae, (not_lt_iff_le mae isFinite_zero).mp signs.mae⟩
    case r2 =>
      exact fun share shown => ⟨r2 share shown, (not_lt_iff_le isFinite_one (r2 share shown)).mp (signs.r2 share shown)⟩
    case training_r2 =>
      exact fun share shown => ⟨training_r2 share shown,
        (not_lt_iff_le isFinite_one (training_r2 share shown)).mp (signs.training_r2 share shown)⟩

/-- Rows of a moderate dataset are moderate on both sides. -/
theorem moderateRows_of_held {holdout : Holdout} (held : Holdout.ofDataset plan dataset = .ok holdout)
    (moderate : dataset.IsModerate) : ModerateRows holdout.train ∧ ModerateRows holdout.test := by
  have rows := Holdout.rows_of_held held
  have lengths := rows.length_eq
  rw [List.length_append] at lengths
  have size := moderate.size
  rw [Dataset.size] at size
  constructor
  · refine moderateRows_of_isModerate (fun row member => moderate.rows row ?_) (by omega) (Holdout.train_ne_nil held)
    exact rows.mem_iff.mp (List.mem_append_right _ member)
  · refine moderateRows_of_isModerate (fun row member => moderate.rows row ?_) (by omega) (Holdout.test_ne_nil held)
    exact rows.mem_iff.mp (List.mem_append_left _ member)

/-- The squares of moderate values do not overflow. -/
theorem hasFiniteSquares_of_moderate {outcome : Report} (reported : report dataset plan = .ok outcome)
    (moderate : dataset.IsModerate) : outcome.HasFiniteSquares := by
  obtain ⟨holdout, held, fitted, rfl⟩ := held_of_report reported
  obtain ⟨train, test⟩ := moderateRows_of_held held moderate
  have spreads : FittedLine.lacksSpread holdout.train = false := by
    rw [FittedLine.ofObservations_of_finite (Holdout.train_finite held)] at fitted
    split_ifs at fitted with few lacking
    exact Bool.not_eq_true _ |>.mp lacking
  constructor
  case mse =>
    change (Assessment.measured _ _).mse.isFinite = true
    rw [Assessment.measured_mse]
    exact isFinite_div_ofNat (train.within_squaredResiduals spreads test).1 (List.length_pos_iff.mpr test.present)
  case r2 =>
    intro share shown
    exact train.isFinite_share spreads test ((Assessment.measured_r2 _ _).symm.trans shown)
  case training_r2 => exact fun share shown => train.isFinite_share spreads train (share_of_fitted shown)

/-- No report shows a number of the wrong sign. What it presents are numbers exactly if the squares have not
overflowed, which those of moderate values do not. -/
theorem report_presents_numbers {outcome : Report} (reported : report dataset plan = .ok outcome) :
    outcome.KeepsSigns ∧ (outcome.PresentsNumbers ↔ outcome.HasFiniteSquares) ∧
      (dataset.IsModerate → outcome.PresentsNumbers) :=
  ⟨keepsSigns_of_report reported, presentsNumbers_iff reported,
    fun moderate => (presentsNumbers_iff reported).mpr (hasFiniteSquares_of_moderate reported moderate)⟩

theorem fourRowsReport_presents_numbers :
    report fourRows halfPlan = .ok fourRowsReport ∧ fourRows.IsModerate ∧ fourRowsReport.PresentsNumbers := by
  have reported : report fourRows halfPlan = .ok fourRowsReport := by decide +kernel
  have moderate : fourRows.IsModerate := ⟨by decide, by decide +kernel⟩
  exact ⟨reported, moderate, (report_presents_numbers reported).2.2 moderate⟩

/-- Three rows whose targets are finite, and too large to be added. -/
def hugeTargets : Dataset where
  predictorName := "x"
  targetName := "y"
  observations := [⟨1.0, 1e308⟩, ⟨2.0, 1e308⟩, ⟨3.0, 1e308⟩]
  observations_ne_nil := List.cons_ne_nil _ _
  all_finite := by decide +kernel

def thirdPlan : HoldoutPlan := { testFraction := 0.34, seed := 42 }

theorem hugeTargets_not_presented :
    ∃ outcome, report hugeTargets thirdPlan = .ok outcome ∧ outcome.fit.line.slope.isNaN = true ∧
      outcome.assessment.mse.isNaN = true ∧ ¬outcome.PresentsNumbers := by
  have shown : (match report hugeTargets thirdPlan with
      | .ok outcome => outcome.fit.line.slope.isNaN && outcome.assessment.mse.isNaN
      | .error _ => false) = true := by decide +kernel
  cases reported : report hugeTargets thirdPlan with
  | error failure => rw [reported] at shown; cases shown
  | ok outcome =>
    rw [reported] at shown
    obtain ⟨slope, mse⟩ := Bool.and_eq_true_iff.mp shown
    exact ⟨outcome, rfl, slope, mse, fun presents => not_isFinite_of_isNaN slope presents.slope⟩

end Pipeline

end HoldoutLine
