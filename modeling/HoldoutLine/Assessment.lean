import HoldoutLine.Dataset.Basic
import HoldoutLine.Regression.Line
import HoldoutLine.Regression.Metrics

/-! # Assessing a line on held-out rows

A line's predictions on rows that it was not fitted to, and the error measures of those predictions.
R² is undefined, and not a failure, where the actual values have no spread to compare with.
-/

namespace HoldoutLine

/-- A row with the value predicted for it. -/
structure Prediction where
  predictor : Float
  actual : Float
  predicted : Float
  absError : Float
  deriving DecidableEq

/-- The share of variance explained on the held-out rows. -/
inductive RSquared where
  | value (share : Float)
  /-- The actual values have no variance. -/
  | undefined
  deriving DecidableEq

namespace RSquared

/-- The share, if there is one. -/
def share? : RSquared → Option Float
  | .value share => some share
  | .undefined => none

def text : RSquared → String
  | .value share => fixedText 4 share
  | .undefined => "undefined"

end RSquared

inductive AssessmentError where
  | empty
  | metric (cause : FitError)
  deriving DecidableEq

def AssessmentError.message : AssessmentError → String
  | .empty => "nothing to evaluate: test set is empty"
  | .metric cause => "metric failed: " ++ cause.message

/-- Predictions in row order, and their error measures. -/
structure Assessment where
  predictions : List Prediction
  mse : Float
  rmse : Float
  mae : Float
  r2 : RSquared
  deriving DecidableEq

namespace Assessment

def predictRow (line : Line Float) (row : Observation) : Prediction :=
  let predicted := line.predict row.predictor
  ⟨row.predictor, row.target, predicted, (row.target - predicted).abs⟩

def predict (line : Line Float) (rows : List Observation) : List Prediction :=
  rows.map (predictRow line)

/-- R² of predictions; only a lack of spread is tolerated. -/
def measureRSquared (actual predicted : List Float) : Except AssessmentError RSquared :=
  match Metrics.rSquared actual predicted with
  | .ok share => .ok (.value share)
  | .error (.undefinedMetric _) => .ok .undefined
  | .error cause => .error (.metric cause)

/-- An error measure that exists for every non-empty column. -/
def required (measure : Option Float) : Except AssessmentError Float :=
  match measure with
  | some value => .ok value
  | none => .error .empty

/-- Predict rows and measure the errors. -/
def ofObservations (line : Line Float) (rows : List Observation) : Except AssessmentError Assessment :=
  if rows.isEmpty then .error .empty
  else do
    let predictions := predict line rows
    let actual := predictions.map Prediction.actual
    let predicted := predictions.map Prediction.predicted
    let mse ← required (Metrics.meanSquaredError? actual predicted)
    let mae ← required (Metrics.meanAbsoluteError? actual predicted)
    let r2 ← measureRSquared actual predicted
    return ⟨predictions, mse, mse.sqrt, mae, r2⟩

end Assessment

end HoldoutLine
