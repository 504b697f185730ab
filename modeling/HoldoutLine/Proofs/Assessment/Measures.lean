import HoldoutLine.Assessment

/-! # Every line can be assessed

Predicting keeps the rows and their order, so the two columns that the measures compare are as long as the rows.
Where there is a row, all of the measures exist, for any coefficients of the line: R² alone may be undefined,
and that is no failure.
-/

namespace HoldoutLine

theorem Metrics.comparable_iff {α : Type} {actual predicted : List α} :
    comparable actual predicted = true ↔ actual.length = predicted.length ∧ actual ≠ [] := by
  rw [comparable, Bool.and_eq_true, beq_iff_eq, Bool.not_eq_true', List.isEmpty_eq_false_iff]

/-- The row that was predicted. -/
def Prediction.row (prediction : Prediction) : Observation := ⟨prediction.predictor, prediction.actual⟩

namespace Assessment

variable {line : Line Float} {rows : List Observation}

@[simp] theorem length_predict : (predict line rows).length = rows.length :=
  List.length_map _

/-- The predictions are about the rows, in their order. -/
@[simp] theorem map_row_predict : (predict line rows).map Prediction.row = rows := by
  simp only [predict, List.map_map]
  exact List.map_id rows

/-- A prediction is the line's value at the row's predictor, whatever the row's target is. -/
theorem getElem?_predict {j : Nat} {row : Observation} (here : rows[j]? = some row) :
    (predict line rows)[j]? = some (predictRow line row) := by
  simp only [predict, List.getElem?_map, here, Option.map_some]

/-- R² of predictions of equally many actual values, at least one. -/
def shareExplained (actual predicted : List Float) : RSquared :=
  if Scalar.isZero (Metrics.squaredDeviations actual) then .undefined
  else .value (Scalar.one - Metrics.squaredResiduals actual predicted / Metrics.squaredDeviations actual)

/-- The assessment of a line on rows, of which there has to be one for the measures to mean anything. -/
def measured (line : Line Float) (rows : List Observation) : Assessment :=
  let predictions := predict line rows
  let actual := predictions.map Prediction.actual
  let predicted := predictions.map Prediction.predicted
  let mse := Metrics.squaredResiduals actual predicted / Scalar.ofCount actual.length
  let mae := Metrics.absoluteResiduals actual predicted / Scalar.ofCount actual.length
  ⟨predictions, mse, mse.sqrt, mae, shareExplained actual predicted⟩

@[simp] theorem measured_predictions : (measured line rows).predictions = predict line rows := rfl

section Columns

variable {α : Type} [Scalar α] {actual predicted : List α}

/-- Only the spread of the actual values can keep columns that can be compared from having an R². -/
theorem rSquared_of_comparable (comparable : Metrics.comparable actual predicted = true) :
    Metrics.rSquared actual predicted =
      if Scalar.isZero (Metrics.squaredDeviations actual) then .error (.undefinedMetric Metrics.rSquaredName)
      else .ok (Scalar.one -
        Metrics.squaredResiduals actual predicted / Metrics.squaredDeviations actual) := by
  obtain ⟨sameLength, nonempty⟩ := Bool.and_eq_true_iff.mp comparable
  have same : actual.length = predicted.length := beq_iff_eq.mp sameLength
  have filled : actual.isEmpty = false := by simpa only [Bool.not_eq_true'] using nonempty
  rw [Metrics.rSquared, if_neg fun mismatch => mismatch same, filled]
  rfl

private theorem measureRSquared_of_comparable {actual predicted : List Float}
    (comparable : Metrics.comparable actual predicted = true) :
    measureRSquared actual predicted = .ok (shareExplained actual predicted) := by
  rw [measureRSquared, rSquared_of_comparable comparable, shareExplained]
  by_cases flat : Scalar.isZero (Metrics.squaredDeviations actual) = true
  · rw [if_pos flat, if_pos flat]
  · rw [if_neg flat, if_neg flat]

end Columns

theorem comparable_predict (line : Line Float) (nonempty : rows ≠ []) :
    Metrics.comparable ((predict line rows).map Prediction.actual)
      ((predict line rows).map Prediction.predicted) = true := by
  obtain ⟨row, rest, rfl⟩ := List.exists_cons_of_ne_nil nonempty
  simp [Metrics.comparable, predict]

/-- No coefficient of the line and no value of the rows keeps an assessment from being made. -/
theorem ofObservations_of_ne_nil (line : Line Float) (nonempty : rows ≠ []) :
    ofObservations line rows = .ok (measured line rows) := by
  have comparable := comparable_predict line nonempty
  rw [ofObservations, if_neg (by simpa only [List.isEmpty_iff] using nonempty)]
  simp only [Metrics.meanSquaredError?, Metrics.meanAbsoluteError?, if_pos comparable, required,
    measureRSquared_of_comparable comparable]
  rfl

end Assessment

end HoldoutLine
