import HoldoutLine.Json.Reader
import HoldoutLine.Report.Basic

/-! # Reports from JSON documents

Reading back what a JSON report says. A number may be written as a count or as a double wherever a
double is expected; null stands for an absent diagnostic and for an undefined R², and nowhere else.
-/

namespace HoldoutLine

def Observation.ofJson? (json : Json) : Option Observation := do
  return ⟨← (← json.member? "predictor").asFloat?, ← (← json.member? "target").asFloat?⟩

def DatasetSummary.ofJson? (json : Json) : Option DatasetSummary := do
  let shape ← (← (← json.member? "shape").asList?).mapM Json.asCount?
  let head ← (← (← json.member? "head").asList?).mapM Observation.ofJson?
  match shape with
  | [rows, columns] =>
    return ⟨(rows, columns), ← (← json.member? "predictor").asText?,
      ← (← json.member? "target").asText?, head⟩
  | _ => none

/-- The part on the rows held out that a JSON value writes; a seed is a machine word. -/
def HoldoutSummary.ofJson? (json : Json) : Option HoldoutSummary := do
  let seed ← (← json.member? "seed").asCount?
  guard (seed ≤ Binary64.maxCount)
  return ⟨← (← json.member? "test_fraction").asFloat?, UInt64.ofNat seed,
    ← (← json.member? "train_rows").asCount?, ← (← json.member? "test_rows").asCount?⟩

def Line.ofJson? (json : Json) : Option (Line Float) := do
  return ⟨← (← json.member? "intercept").asFloat?, ← (← json.member? "slope").asFloat?⟩

def FittedLine.ofJson? (json : Json) : Option FittedLine := do
  return {
    line := ← Line.ofJson? (← json.member? "model")
    rows := ← (← json.member? "n").asCount?
    r2 := ← (← json.member? "r2").asOptionalFloat?
    adjustedR2 := ← (← json.member? "adjusted_r2").asOptionalFloat?
    sigma := ← (← json.member? "sigma").asOptionalFloat?
    pValue := ← (← json.member? "p_value").asOptionalFloat?
    aic := ← (← json.member? "aic").asFloat?
    rmse := ← (← json.member? "rmse").asFloat? }

def Prediction.ofJson? (json : Json) : Option Prediction := do
  return ⟨← (← json.member? "predictor").asFloat?, ← (← json.member? "actual").asFloat?,
    ← (← json.member? "predicted").asFloat?, ← (← json.member? "abs_error").asFloat?⟩

def Assessment.ofJson? (json : Json) : Option Assessment := do
  let predictions ← (← (← json.member? "predictions").asList?).mapM Prediction.ofJson?
  let metrics ← json.member? "metrics"
  let r2 ← (← metrics.member? "r2").asOptionalFloat?
  return ⟨predictions, ← (← metrics.member? "mse").asFloat?, ← (← metrics.member? "rmse").asFloat?,
    ← (← metrics.member? "mae").asFloat?, r2.elim .undefined .value⟩

namespace Report

def ofJson? (json : Json) : Option Report := do
  return ⟨← DatasetSummary.ofJson? (← json.member? "dataset"),
    ← HoldoutSummary.ofJson? (← json.member? "split"),
    ← FittedLine.ofJson? (← json.member? "fit"),
    ← Assessment.ofJson? (← json.member? "evaluation")⟩

/-- The report that a JSON document writes. -/
def read? (document : String) : Option Report := do ofJson? (← Json.read? document)

end Report

end HoldoutLine
