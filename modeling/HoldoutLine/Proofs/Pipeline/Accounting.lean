import HoldoutLine.Proofs.Pipeline.Stages
import Mathlib.Control.Monad.Basic

/-! # A report accounts for every row

The stages of a pass count the rows again and again: the summary of the dataset, the two parts of the holdout, the
fit and the predictions. `Report.AccountsFor` says that the counts agree, that each row of the dataset is behind
one prediction or behind the fit, and that the predictions are the fitted line's own values.
-/

namespace HoldoutLine

/-- What a report owes to the dataset and the plan that it was made from. -/
structure Report.AccountsFor (outcome : Report) (dataset : Dataset) (plan : HoldoutPlan) : Prop where
  shape : outcome.dataset.shape = (dataset.size, 2)
  /-- The first rows are shown in dataset order, before any shuffle. -/
  head : outcome.dataset.head = dataset.observations.take (min 5 dataset.size)
  test_fraction : outcome.holdout.testFraction = plan.testFraction
  seed : outcome.holdout.seed = plan.seed
  all_rows : outcome.holdout.trainRows + outcome.holdout.testRows = dataset.size
  fit_rows : outcome.fit.rows = outcome.holdout.trainRows
  predictions_length : outcome.assessment.predictions.length = outcome.holdout.testRows
  test_size : outcome.holdout.testRows = plan.testSize dataset.size
  test_nonempty : 0 < outcome.holdout.testRows
  test_remainder : outcome.holdout.testRows < dataset.size
  /-- The predicted rows and the rows of the fit are the rows of the dataset, each once. -/
  each_row_once : ∃ rest, (outcome.assessment.predictions.map Prediction.row ++ rest).Perm dataset.observations ∧
    FittedLine.ofObservations rest = .ok outcome.fit
  on_line : ∀ p ∈ outcome.assessment.predictions,
    p.predicted = outcome.fit.line.slope * p.predictor + outcome.fit.line.intercept ∧
      p.absError = (p.actual - p.predicted).abs

namespace Pipeline

variable {dataset : Dataset} {plan : HoldoutPlan}

/-- A prediction of an assessment is the line's value at its predictor, and its error is the distance to it. -/
theorem on_line_of_measured {line : Line Float} {rows : List Observation} {p : Prediction}
    (member : p ∈ (Assessment.measured line rows).predictions) :
    p.predicted = line.slope * p.predictor + line.intercept ∧ p.absError = (p.actual - p.predicted).abs := by
  obtain ⟨row, _, rfl⟩ := List.mem_map.mp member
  exact ⟨rfl, rfl⟩

/-- Every report accounts for the rows of its dataset. -/
theorem report_accounts_for {outcome : Report} (reported : report dataset plan = .ok outcome) :
    outcome.AccountsFor dataset plan := by
  obtain ⟨holdout, held, fitted, rfl⟩ := held_of_report reported
  obtain ⟨-, nonempty, remainder, -⟩ := Holdout.ofDataset_eq_ok_iff.mp held
  have parts := Holdout.partitions_of_held held
  have test := parts.length_test
  have train := parts.length_train
  constructor
  case shape => rfl
  case head => exact List.take_eq_take_min
  case test_fraction => rfl
  case seed => rfl
  case all_rows =>
    simp only [assembled, train, test]
    omega
  case fit_rows => simp only [assembled, FittedLine.fitted_rows]
  case predictions_length =>
    simp only [assembled, Assessment.measured_predictions, Assessment.length_predict]
  case test_size => exact test
  case test_nonempty => simpa only [assembled, test] using nonempty
  case test_remainder => simpa only [assembled, test] using remainder
  case each_row_once =>
    refine ⟨holdout.train, ?_, fitted⟩
    simp only [assembled, Assessment.measured_predictions, Assessment.map_row_predict]
    exact Holdout.rows_of_held held
  case on_line => exact fun p member => on_line_of_measured member

/-- The report on `fourRows`: the line through the last two rows, assessed on the first two. -/
def fourRowsReport : Report where
  dataset := ⟨(4, 2), "midterm", "final", [⟨1.0, 2.0⟩, ⟨2.0, 4.0⟩, ⟨3.0, 7.0⟩, ⟨4.0, 8.0⟩]⟩
  holdout := ⟨0.5, 42, 2, 2⟩
  fit := ⟨⟨4.0, 1.0⟩, 2, some 1.0, some 1.0, none, none, 1.0 / 0.0, 0.0⟩
  assessment := ⟨[⟨2.0, 4.0, 6.0, 2.0⟩, ⟨1.0, 2.0, 5.0, 3.0⟩], 6.5, (6.5 : Float).sqrt, 2.5, .value (-5.5)⟩

theorem fourRowsReport_accounts_for :
    report fourRows halfPlan = .ok fourRowsReport ∧ fourRowsReport.AccountsFor fourRows halfPlan := by
  have reported : report fourRows halfPlan = .ok fourRowsReport := by decide +kernel
  exact ⟨reported, report_accounts_for reported⟩

end Pipeline

end HoldoutLine
