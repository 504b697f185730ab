import HoldoutLine.Pipeline

/-! # The workbench

Work on a dataset step by step: a dataset, rows held out and a line are at hand, each replaced by the
step that makes a new one and kept by all others. Training and test rows are those of the last holdout,
whatever the dataset is by then.
-/

namespace HoldoutLine

/-- What is at hand. -/
structure Workbench where
  dataset : Option Dataset
  holdout : Option Holdout
  line : Option (Line Float)

inductive Selection where
  | all
  | train
  | test
  deriving DecidableEq, Repr

inductive WorkbenchError where
  /-- The step needs something that is not at hand yet. -/
  | nothingAtHand
  | dataset (cause : DatasetError)
  | holdout (cause : HoldoutError)
  | fit (cause : FitError)
  | assessment (cause : AssessmentError)
  | pipeline (cause : PipelineError)

namespace Workbench

def empty : Workbench := ⟨none, none, none⟩

/-- Something that has to be at hand. -/
def need {α : Type} : Option α → Except WorkbenchError α
  | some value => .ok value
  | none => .error .nothingAtHand

def rows (bench : Workbench) : Selection → Except WorkbenchError (List Observation)
  | .all => (need bench.dataset).map Dataset.observations
  | .train => (need bench.holdout).map Holdout.train
  | .test => (need bench.holdout).map Holdout.test

def setDataset (bench : Workbench) (dataset : Dataset) : Workbench :=
  { bench with dataset := some dataset }

def setLine (bench : Workbench) (line : Line Float) : Workbench := { bench with line := some line }

/-- A dataset of selected rows, cut to the first `count` if a count is given, under the same names. -/
def narrow (bench : Workbench) (selection : Selection) (count : Option Nat) :
    Except WorkbenchError (Dataset × Workbench) := do
  let dataset ← need bench.dataset
  let rows ← bench.rows selection
  let kept := match count with
    | some count => rows.take count
    | none => rows
  let dataset ←
    (Dataset.ofObservations dataset.predictorName dataset.targetName kept).mapError .dataset
  return (dataset, bench.setDataset dataset)

def rename (bench : Workbench) (predictorName targetName : String) :
    Except WorkbenchError (Dataset × Workbench) := do
  let dataset ← need bench.dataset
  let dataset := dataset.rename predictorName targetName
  return (dataset, bench.setDataset dataset)

def holdOut (bench : Workbench) (plan : HoldoutPlan) : Except WorkbenchError (Holdout × Workbench) := do
  let dataset ← need bench.dataset
  let holdout ← (Holdout.ofDataset plan dataset).mapError .holdout
  return (holdout, { bench with holdout := some holdout })

def fit (bench : Workbench) (selection : Selection) :
    Except WorkbenchError (FittedLine × Workbench) := do
  let rows ← bench.rows selection
  let fitted ← (FittedLine.ofObservations rows).mapError .fit
  return (fitted, bench.setLine fitted.line)

def predict (bench : Workbench) (predictors : List Float) : Except WorkbenchError (List Float) := do
  let line ← need bench.line
  return predictors.map line.predict

/-- Assess the line on selected rows. -/
def assess (bench : Workbench) (selection : Selection) : Except WorkbenchError Assessment := do
  let line ← need bench.line
  let rows ← bench.rows selection
  (Assessment.ofObservations line rows).mapError .assessment

def report (bench : Workbench) (plan : HoldoutPlan) : Except WorkbenchError Report := do
  let dataset ← need bench.dataset
  (Pipeline.report dataset plan).mapError .pipeline

end Workbench

end HoldoutLine
