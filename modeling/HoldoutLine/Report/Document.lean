import HoldoutLine.Json.Printer
import HoldoutLine.Report.Basic

/-! # JSON reports

A report as a JSON document. Every field stands in it under its own name, in a fixed order; what is
absent or undefined is null, and so is a double that is not finite.
-/

namespace HoldoutLine

def Observation.toJson (o : Observation) : Json :=
  .object [("predictor", .number o.predictor), ("target", .number o.target)]

def DatasetSummary.toJson (dataset : DatasetSummary) : Json :=
  .object [
    ("shape", .list [.count dataset.shape.1, .count dataset.shape.2]),
    ("predictor", .text dataset.predictor),
    ("target", .text dataset.target),
    ("head", .list (dataset.head.map Observation.toJson))]

def HoldoutSummary.toJson (holdout : HoldoutSummary) : Json :=
  .object [
    ("test_fraction", .number holdout.testFraction),
    ("seed", .count holdout.seed.toNat),
    ("train_rows", .count holdout.trainRows),
    ("test_rows", .count holdout.testRows)]

def Line.toJson (line : Line Float) : Json :=
  .object [("intercept", .number line.intercept), ("slope", .number line.slope)]

def FittedLine.toJson (fit : FittedLine) : Json :=
  .object [
    ("model", fit.line.toJson),
    ("n", .count fit.rows),
    ("r2", .ofOption .number fit.r2),
    ("adjusted_r2", .ofOption .number fit.adjustedR2),
    ("sigma", .ofOption .number fit.sigma),
    ("p_value", .ofOption .number fit.pValue),
    ("aic", .number fit.aic),
    ("rmse", .number fit.rmse)]

def Prediction.toJson (prediction : Prediction) : Json :=
  .object [
    ("predictor", .number prediction.predictor),
    ("actual", .number prediction.actual),
    ("predicted", .number prediction.predicted),
    ("abs_error", .number prediction.absError)]

def Assessment.toJson (assessment : Assessment) : Json :=
  .object [
    ("predictions", .list (assessment.predictions.map Prediction.toJson)),
    ("metrics", .object [
      ("mse", .number assessment.mse),
      ("rmse", .number assessment.rmse),
      ("mae", .number assessment.mae),
      ("r2", .ofOption .number assessment.r2.share?)])]

namespace Report

def toJson (report : Report) : Json :=
  .object [
    ("dataset", report.dataset.toJson),
    ("split", report.holdout.toJson),
    ("fit", report.fit.toJson),
    ("evaluation", report.assessment.toJson)]

/-- A report as a JSON document. -/
def renderJson (report : Report) : String := report.toJson.pretty 0

end Report

end HoldoutLine
