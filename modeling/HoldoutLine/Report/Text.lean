import HoldoutLine.Report.Basic
import HoldoutLine.Text.Aligned

/-! # Text reports

The lines of the two text layouts. Both open with the same dataset block. Only the table of predictions
(detailed) or the list of the first predictions (brief) depends on how many rows are to be shown.
-/

namespace HoldoutLine.Report

/-- A number with four decimal places, or the word for none. -/
def optionalText : Option Float → String
  | some value => fixedText 4 value
  | none => "undefined"

/-- The line of equal signs that separates the parts of a detailed report. -/
def rule : String := String.ofList (List.replicate 50 '=')

def dashes : String := String.ofList (List.replicate 50 '-')

/-- A row of the dataset block: three right-aligned columns. -/
def headRow (index predictor target : String) : String :=
  alignRight 4 index ++ " " ++ alignRight 10 predictor ++ " " ++ alignRight 10 target

/-- The rows of the dataset block from the `index`-th on. -/
def headRowsFrom (index : Nat) : List Observation → List String
  | [] => []
  | row :: rest =>
    headRow (toString index) (NumberLayout.report.text row.predictor)
      (NumberLayout.report.text row.target) :: headRowsFrom (index + 1) rest

/-- The dataset block: shape, column names and first rows. -/
def datasetLines (dataset : DatasetSummary) : List String :=
  [s!"Data loaded: ({dataset.shape.1}, {dataset.shape.2})",
    "Columns: [\"" ++ dataset.predictor ++ "\", \"" ++ dataset.target ++ "\"]",
    "",
    s!"First {dataset.head.length} rows:",
    headRow "" dataset.predictor dataset.target] ++ headRowsFrom 0 dataset.head

def partitionText (holdout : HoldoutSummary) : String :=
  s!"Train rows: {holdout.trainRows}, test rows: {holdout.testRows}"

def countLine (assessment : Assessment) : String :=
  s!"Predictions: {assessment.predictions.length} samples"

def measureLines (assessment : Assessment) : List String :=
  ["Mean Squared Error (MSE): " ++ fixedText 4 assessment.mse,
    "Root Mean Squared Error (RMSE): " ++ fixedText 4 assessment.rmse,
    "Mean Absolute Error (MAE): " ++ fixedText 4 assessment.mae,
    "R² Score: " ++ assessment.r2.text]

/-- An entry of a list in the detailed layout. -/
def bullet (text : String) : String := "   - " ++ text

/-- The detailed layout up to the table of predictions. -/
def detailedOpening (report : Report) : List String :=
  [rule,
    "Linear regression: " ++ report.dataset.target ++ " from " ++ report.dataset.predictor,
    rule,
    ""] ++
  datasetLines report.dataset ++
  ["",
    "Predictor (X): " ++ report.dataset.predictor,
    "Target (y): '" ++ report.dataset.target ++ "'",
    "",
    partitionText report.holdout ++ " (test fraction " ++ fixedText 2 report.holdout.testFraction ++
      s!", seed {report.holdout.seed})",
    "",
    "Model trained: LinearRegression",
    bullet ("slope (coefficient): " ++ fixedText 4 report.fit.line.slope),
    bullet ("intercept: " ++ fixedText 4 report.fit.line.intercept),
    bullet ("train R² score: " ++ optionalText report.fit.r2),
    bullet ("residual std error: " ++ optionalText report.fit.sigma),
    bullet ("slope p-value: " ++ optionalText report.fit.pValue),
    "",
    countLine report.assessment,
    "",
    "Evaluation:"] ++
  (measureLines report.assessment).map bullet ++ [""]

/-- A row of the table of predictions: four left-aligned columns. -/
def tableRow (predictor actual predicted error : String) : String :=
  alignLeft 10 predictor ++ " " ++ alignLeft 12 actual ++ " " ++ alignLeft 12 predicted ++ " " ++
    alignLeft 10 error

def predictionRow (prediction : Prediction) : String :=
  tableRow (fixedText 0 prediction.predictor) (fixedText 0 prediction.actual)
    (fixedText 2 prediction.predicted) (fixedText 2 prediction.absError)

def predictionTable (report : Report) (rows : Nat) : List String :=
  let shown := min rows report.assessment.predictions.length
  [s!"Predictions (first {shown}):",
    tableRow report.dataset.predictor "actual" "predicted" "error",
    dashes] ++ (report.assessment.predictions.take shown).map predictionRow

def detailedClosing : List String := ["", rule, "Pipeline complete", rule]

def detailedLines (report : Report) (rows : Nat) : List String :=
  detailedOpening report ++ predictionTable report rows ++ detailedClosing

/-- The brief layout up to the list of the first predictions. -/
def briefOpening (report : Report) : List String :=
  datasetLines report.dataset ++
  [partitionText report.holdout,
    "Target: '" ++ report.dataset.target ++ "'",
    "Model trained: LinearRegression",
    "Train R² score: " ++ optionalText report.fit.r2,
    countLine report.assessment]

def predictionList (report : Report) (rows : Nat) : String :=
  let shown := report.assessment.predictions.take rows
  let values := shown.map fun prediction => fixedText 4 prediction.predicted
  s!"First {shown.length} predictions: [" ++ String.intercalate ", " values ++ "]"

def briefLines (report : Report) (rows : Nat) : List String :=
  briefOpening report ++ [predictionList report rows] ++ measureLines report.assessment

def textLines (report : Report) : ReportStyle → Nat → List String
  | .detailed, rows => detailedLines report rows
  | .brief, rows => briefLines report rows

def joinLines (lines : List String) : String := String.join (lines.map (· ++ "\n"))

def renderText (report : Report) (style : ReportStyle) (rows : Nat) : String :=
  joinLines (report.textLines style rows)

end HoldoutLine.Report
