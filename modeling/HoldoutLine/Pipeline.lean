import HoldoutLine.Log
import HoldoutLine.Report.Basic
import HoldoutLine.Text.Quoted

/-! # From a dataset to a report

One pass: hold rows out, fit a line to the others, assess the line on the rows held out. The first stage
that fails decides the outcome.
-/

namespace HoldoutLine

inductive PipelineError where
  | dataset (cause : DatasetError)
  | holdout (cause : HoldoutError)
  | fit (cause : FitError)
  | assessment (cause : AssessmentError)
  deriving DecidableEq

def PipelineError.message : PipelineError → String
  | .dataset cause => cause.message
  | .holdout cause => "split failed: " ++ cause.message
  | .fit cause => "fit failed: " ++ cause.message
  | .assessment cause => "evaluation failed: " ++ cause.message

namespace Pipeline

def loadedMessage (dataset : Dataset) : String :=
  s!"loaded {dataset.size} rows, columns [" ++ quotedText dataset.predictorName ++ ", " ++
    quotedText dataset.targetName ++ "]"

def holdoutMessage (total : Nat) (plan : HoldoutPlan) (holdout : Holdout) : String :=
  s!"split {total} rows into {holdout.trainIndices.length} train / " ++
    s!"{holdout.testIndices.length} test (seed {plan.seed})"

/-- An optional number in a log detail. -/
def optionalDetail : Option Float → String
  | some value => "Some(" ++ NumberLayout.detail.text value ++ ")"
  | none => "None"

def fittedMessage (fit : FittedLine) (rows : List Observation) : String :=
  let residual := FittedLine.residualSum fit.line (rows.map Observation.predictor)
    (rows.map Observation.target)
  fit.line.text ++ s!" on {fit.rows} rows, rss " ++ fixedText 4 residual ++ ", p " ++
    optionalDetail fit.pValue

def assessedMessage (assessment : Assessment) : String :=
  s!"evaluated {assessment.predictions.length} rows: rmse " ++ fixedText 4 assessment.rmse ++ ", r2 " ++
    assessment.r2.text

def holdOut (dataset : Dataset) (plan : HoldoutPlan) : Logged PipelineError Holdout := do
  let holdout ← Logged.ofExcept ((Holdout.ofDataset plan dataset).mapError .holdout)
  Logged.note .holdout .debug (holdoutMessage dataset.size plan holdout)
  return holdout

/-- Fit a line to rows, and tell what came out. -/
def fit (rows : List Observation) : Logged PipelineError FittedLine := do
  let fit ← Logged.ofExcept ((FittedLine.ofObservations rows).mapError .fit)
  Logged.note .fit .debug ("fitted " ++ fittedMessage fit rows)
  Logged.note .pipeline .info (s!"trained on {rows.length} rows: " ++ fit.text)
  return fit

/-- Assess a line on rows, and tell what came out; a warning tells why R² may be undefined. -/
def assess (line : Line Float) (rows : List Observation) : Logged PipelineError Assessment := do
  let assessment ← Logged.ofExcept ((Assessment.ofObservations line rows).mapError .assessment)
  match assessment.r2 with
  | .undefined =>
    Logged.note .assessment .warn
      (Metrics.rSquaredName ++ s!" undefined: all {rows.length} test targets are equal")
  | .value _ => pure ()
  Logged.note .pipeline .info (assessedMessage assessment)
  return assessment

/-- The whole pass, with what it tells on the way. -/
def run (dataset : Dataset) (plan : HoldoutPlan) : Logged PipelineError Report := do
  Logged.note .pipeline .info (loadedMessage dataset)
  let holdout ← holdOut dataset plan
  let fitted ← fit holdout.train
  let assessment ← assess fitted.line holdout.test
  return {
    dataset := .ofDataset dataset
    holdout := ⟨plan.testFraction, plan.seed, holdout.train.length, holdout.test.length⟩
    fit := fitted
    assessment }

def report (dataset : Dataset) (plan : HoldoutPlan) : Except PipelineError Report :=
  (run dataset plan).result

end Pipeline

end HoldoutLine
