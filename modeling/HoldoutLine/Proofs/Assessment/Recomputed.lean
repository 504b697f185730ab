import HoldoutLine.Proofs.Assessment.Measures
import Mathlib.Tactic.SplitIfs

/-! # What predictions say of their assessment

An assessment lists its predictions with the error of each, and computes its measures from columns of its own. The two
agree: the mean absolute error is the sum of the listed errors over their number, the mean squared error that of the
squared differences, and R² is that of the two listed columns (`FollowsFrom`). So the measures can be recomputed from
the predictions, whatever line and rows they came from, and nothing but a lack of rows keeps an assessment from being
made.
-/

namespace HoldoutLine

/-- A prediction is the line's, and lists its own error. -/
structure Prediction.IsOf (line : Line Float) (prediction : Prediction) : Prop where
  predicted : prediction.predicted = line.predict prediction.predictor
  absError : prediction.absError = (prediction.actual - prediction.predicted).abs

/-- Doubles are added up one after the other, from the negative zero on. -/
theorem Scalar.sum_eq_foldl (xs : List Float) : Scalar.sum xs = xs.foldl (· + ·) (-0.0) := rfl

/-- The mean of doubles is their sum over their number, both as doubles. -/
theorem Scalar.mean_eq_foldl (xs : List Float) :
    Scalar.mean xs = xs.foldl (· + ·) (-0.0) / Float.ofNat xs.length := by
  rw [mean, sum_eq_foldl]
  rfl

namespace Assessment

section Columns

variable {predictions : List Prediction}

/-- The measures of an assessment are those of the columns of predictions. -/
structure FollowsFrom (assessment : Assessment) (predictions : List Prediction) : Prop where
  mae : assessment.mae = (predictions.map Prediction.absError).foldl (· + ·) (-0.0) / Float.ofNat predictions.length
  mse : assessment.mse = (predictions.map fun p => (p.actual - p.predicted) * (p.actual - p.predicted)).foldl
    (· + ·) (-0.0) / Float.ofNat predictions.length
  rmse : assessment.rmse = assessment.mse.sqrt
  rmse_columns : Metrics.rootMeanSquaredError? (predictions.map Prediction.actual)
    (predictions.map Prediction.predicted) = some assessment.rmse
  value_iff : ∀ share, assessment.r2 = .value share ↔
    Metrics.rSquared (predictions.map Prediction.actual) (predictions.map Prediction.predicted) = .ok share
  undefined_iff : assessment.r2 = .undefined ↔
    Metrics.rSquared (predictions.map Prediction.actual) (predictions.map Prediction.predicted) =
      .error (.undefinedMetric Metrics.rSquaredName)

/-- Predictions leave no choice of the measures. -/
theorem FollowsFrom.unique {first second : Assessment} (firstFollows : first.FollowsFrom predictions)
    (secondFollows : second.FollowsFrom predictions) (same : first.predictions = second.predictions) :
    first = second := by
  have mse : first.mse = second.mse := firstFollows.mse.trans secondFollows.mse.symm
  have mae : first.mae = second.mae := firstFollows.mae.trans secondFollows.mae.symm
  have rmse : first.rmse = second.rmse := by rw [firstFollows.rmse, secondFollows.rmse, mse]
  have r2 : first.r2 = second.r2 := by
    cases share : second.r2 with
    | value found => exact (firstFollows.value_iff found).mpr ((secondFollows.value_iff found).mp share)
    | undefined => exact firstFollows.undefined_iff.mpr (secondFollows.undefined_iff.mp share)
  cases first
  cases second
  simp_all only

private theorem squaredResiduals_columns (predictions : List Prediction) :
    Metrics.squaredResiduals (predictions.map Prediction.actual) (predictions.map Prediction.predicted) =
      Scalar.sum (predictions.map fun p => Scalar.square (p.actual - p.predicted)) := by
  rw [Metrics.squaredResiduals, List.zipWith_map, List.zipWith_self]

/-- The listed errors are the magnitudes that are summed up. -/
theorem absoluteResiduals_columns {line : Line Float} (made : ∀ p ∈ predictions, p.IsOf line) :
    Metrics.absoluteResiduals (predictions.map Prediction.actual) (predictions.map Prediction.predicted) =
      Scalar.sum (predictions.map Prediction.absError) := by
  rw [Metrics.absoluteResiduals, List.zipWith_map, List.zipWith_self]
  congr 1
  exact List.map_congr_left fun p member => (made p member).absError.symm

private theorem shareExplained_eq_value_iff {actual predicted : List Float}
    (comparable : Metrics.comparable actual predicted = true) (share : Float) :
    shareExplained actual predicted = .value share ↔ Metrics.rSquared actual predicted = .ok share := by
  rw [rSquared_of_comparable comparable, shareExplained]
  split_ifs
  · exact iff_of_false (by simp) (by simp)
  · rw [RSquared.value.injEq, Except.ok.injEq]

private theorem shareExplained_eq_undefined_iff_error {actual predicted : List Float}
    (comparable : Metrics.comparable actual predicted = true) :
    shareExplained actual predicted = .undefined ↔
      Metrics.rSquared actual predicted = .error (.undefinedMetric Metrics.rSquaredName) := by
  rw [rSquared_of_comparable comparable, shareExplained]
  split_ifs
  · exact iff_of_true rfl rfl
  · exact iff_of_false (by simp) (by simp)

end Columns

section Rows

variable {line : Line Float} {rows : List Observation}

private theorem isOf_of_mem_predict (line : Line Float) (rows : List Observation) :
    ∀ p ∈ predict line rows, p.IsOf line :=
  List.forall_mem_map.mpr fun _ _ => ⟨rfl, rfl⟩

private theorem measured_followsFrom (line : Line Float) (present : rows ≠ []) :
    (measured line rows).FollowsFrom (predict line rows) := by
  have comparable := comparable_predict line present
  constructor
  case mae =>
    have mean : (measured line rows).mae = Scalar.mean ((predict line rows).map Prediction.absError) := by
      rw [measured, absoluteResiduals_columns (isOf_of_mem_predict line rows), Scalar.mean, List.length_map,
        List.length_map]
    rw [mean, Scalar.mean_eq_foldl, List.length_map]
  case mse =>
    have mean : (measured line rows).mse =
        Scalar.mean ((predict line rows).map fun p => Scalar.square (p.actual - p.predicted)) := by
      rw [measured, squaredResiduals_columns, Scalar.mean, List.length_map, List.length_map]
    rw [mean, Scalar.mean_eq_foldl, List.length_map]
    rfl
  case rmse => rfl
  case rmse_columns =>
    rw [Metrics.rootMeanSquaredError?, Metrics.meanSquaredError?, if_pos comparable]
    rfl
  case value_iff => exact shareExplained_eq_value_iff comparable
  case undefined_iff => exact shareExplained_eq_undefined_iff_error comparable

private theorem ofObservations_eq_error_iff {cause : AssessmentError} :
    ofObservations line rows = .error cause ↔ rows = [] ∧ cause = .empty := by
  by_cases empty : rows = []
  · have refused : ofObservations line [] = .error .empty := rfl
    rw [empty, refused, Except.error.injEq, eq_comm]
    exact (and_iff_right rfl).symm
  · rw [ofObservations_of_ne_nil line empty]
    exact iff_of_false nofun fun refused => empty refused.1

private theorem eq_measured_of_ofObservations {assessment : Assessment}
    (made : ofObservations line rows = .ok assessment) : rows ≠ [] ∧ assessment = measured line rows := by
  have present : rows ≠ [] := by
    rintro rfl
    rw [ofObservations_eq_error_iff.mpr ⟨rfl, rfl⟩] at made
    cases made
  rw [ofObservations_of_ne_nil line present] at made
  exact ⟨present, (Except.ok.inj made).symm⟩

/-- An assessment fails exactly without rows. Otherwise it has one prediction for each row, in their order, and its
measures follow from the predictions: another line on other rows with the same predictions has the same assessment. -/
theorem ofObservations_follows_from_predictions (line : Line Float) (rows : List Observation) :
    (∀ cause, ofObservations line rows = .error cause ↔ rows = [] ∧ cause = .empty) ∧
      (rows ≠ [] → ∃ assessment, ofObservations line rows = .ok assessment ∧
        assessment.predictions.map Prediction.row = rows ∧ (∀ p ∈ assessment.predictions, p.IsOf line) ∧
        assessment.FollowsFrom assessment.predictions) ∧
      ∀ other others first second, ofObservations line rows = .ok first → ofObservations other others = .ok second →
        first.predictions = second.predictions → first = second := by
  refine ⟨fun cause => ofObservations_eq_error_iff, ?_, ?_⟩
  · intro present
    exact ⟨measured line rows, ofObservations_of_ne_nil line present, map_row_predict, isOf_of_mem_predict line rows,
      measured_followsFrom line present⟩
  · intro other others first second madeFirst madeSecond same
    obtain ⟨present, rfl⟩ := eq_measured_of_ofObservations madeFirst
    obtain ⟨presentOthers, rfl⟩ := eq_measured_of_ofObservations madeSecond
    have follows := measured_followsFrom other presentOthers
    rw [measured_predictions, measured_predictions] at same
    rw [← same] at follows
    exact (measured_followsFrom line present).unique follows same

/-- Two rows, of which the second is at an infinite predictor. -/
def farRows : List Observation := [⟨1.0, 2.0⟩, ⟨1.0 / 0.0, 3.0⟩]

def noLine : Line Float := ⟨0.0 / 0.0, 1.0⟩

theorem farRows_follow_from_predictions :
    farRows ≠ [] ∧ ∃ assessment, ofObservations noLine farRows = .ok assessment ∧
      assessment.predictions.map Prediction.row = farRows ∧ assessment.FollowsFrom assessment.predictions := by
  have present : farRows ≠ [] := List.cons_ne_nil _ _
  obtain ⟨assessment, made, rows, -, follows⟩ := (ofObservations_follows_from_predictions noLine farRows).2.1 present
  exact ⟨present, assessment, made, rows, follows⟩

end Rows

end Assessment

end HoldoutLine
