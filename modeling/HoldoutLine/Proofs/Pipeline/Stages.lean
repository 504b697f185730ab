import HoldoutLine.Pipeline
import HoldoutLine.Proofs.Assessment.Measures
import HoldoutLine.Proofs.Holdout.Partition
import HoldoutLine.Proofs.Regression.Training

/-! # What a pass over a dataset comes to

The log entries of a stage say nothing about its result, so a pass is its three results in a row. The rows of a
dataset are finite and so are the rows that are left to train on, and the rows held out are never none: once rows
are held out, the training rows alone decide whether there is a report, and the report is the `assembled` one.
-/

namespace HoldoutLine.Pipeline

@[simp] theorem result_holdOut (dataset : Dataset) (plan : HoldoutPlan) :
    (holdOut dataset plan).result = (Holdout.ofDataset plan dataset).mapError .holdout := by
  simp only [holdOut, Logged.result_bind, Logged.result_ofExcept, Logged.result_note, Logged.result_pure]
  cases (Holdout.ofDataset plan dataset) <;> rfl

@[simp] theorem result_fit (rows : List Observation) :
    (fit rows).result = (FittedLine.ofObservations rows).mapError .fit := by
  simp only [fit, Logged.result_bind, Logged.result_ofExcept, Logged.result_note, Logged.result_pure]
  cases FittedLine.ofObservations rows <;> rfl

/-- The warning about R² does not change the assessment. -/
@[simp] theorem result_assess (line : Line Float) (rows : List Observation) :
    (assess line rows).result = (Assessment.ofObservations line rows).mapError .assessment := by
  simp only [assess, Logged.result_bind, Logged.result_ofExcept]
  cases Assessment.ofObservations line rows with
  | error cause => rfl
  | ok assessment =>
    simp only [Except.mapError, bind, Except.bind]
    cases assessment.r2 <;> rfl

/-- The report on held-out rows that leave a line to fit. -/
def assembled (dataset : Dataset) (plan : HoldoutPlan) (holdout : Holdout) : Report where
  dataset := .ofDataset dataset
  holdout := ⟨plan.testFraction, plan.seed, holdout.train.length, holdout.test.length⟩
  fit := FittedLine.fitted holdout.train
  assessment := Assessment.measured (FittedLine.fitted holdout.train).line holdout.test

section Outcomes

variable {dataset : Dataset} {plan : HoldoutPlan}

theorem report_of_refused {cause : HoldoutError} (refused : Holdout.ofDataset plan dataset = .error cause) :
    report dataset plan = .error (.holdout cause) := by
  simp only [report, run, Logged.result_bind, Logged.result_note, result_holdOut, refused]
  rfl

/-- Once rows are held out, the training rows alone decide whether there is a report. -/
theorem report_of_held {holdout : Holdout} (held : Holdout.ofDataset plan dataset = .ok holdout) :
    report dataset plan =
      if holdout.train.length = 1 then .error (.fit (.notEnoughPoints 1 2))
      else if FittedLine.lacksSpread holdout.train then .error (.fit .degeneratePredictor)
      else .ok (assembled dataset plan holdout) := by
  have present := List.length_pos_iff.mpr (Holdout.train_ne_nil held)
  have few : holdout.train.length < 2 ↔ holdout.train.length = 1 := by omega
  have fitting := FittedLine.ofObservations_of_finite (Holdout.train_finite held)
  have assessing := Assessment.ofObservations_of_ne_nil (FittedLine.fitted holdout.train).line
    (Holdout.test_ne_nil held)
  simp only [report, run, Logged.result_bind, Logged.result_note, Logged.result_pure, result_holdOut, result_fit,
    result_assess, held]
  simp only [few] at fitting
  split_ifs at fitting ⊢ with single lacking
  · simp only [bind, Except.bind, Except.mapError, fitting, single]
  · simp only [bind, Except.bind, Except.mapError, fitting]
  · simp only [bind, Except.bind, Except.mapError, fitting, assessing, assembled]

/-- Behind every report there is a holdout whose training rows were fitted. -/
theorem held_of_report {outcome : Report} (reported : report dataset plan = .ok outcome) :
    ∃ holdout, Holdout.ofDataset plan dataset = .ok holdout ∧
      FittedLine.ofObservations holdout.train = .ok outcome.fit ∧ assembled dataset plan holdout = outcome := by
  cases held : Holdout.ofDataset plan dataset with
  | error cause =>
    rw [report_of_refused held] at reported
    cases reported
  | ok holdout =>
    rw [report_of_held held] at reported
    split_ifs at reported with single lacking
    cases reported
    have present := List.length_pos_iff.mpr (Holdout.train_ne_nil held)
    refine ⟨holdout, rfl, ?_, rfl⟩
    rw [FittedLine.ofObservations_of_finite (Holdout.train_finite held), if_neg (by omega), if_neg lacking]
    rfl

end Outcomes

section Sample

def halfPlan : HoldoutPlan := { testFraction := 0.5, seed := 42 }

/-- Four rows; `halfPlan` holds out the second and the first, in that order. -/
def fourRows : Dataset where
  predictorName := "midterm"
  targetName := "final"
  observations := [⟨1.0, 2.0⟩, ⟨2.0, 4.0⟩, ⟨3.0, 7.0⟩, ⟨4.0, 8.0⟩]
  observations_ne_nil := List.cons_ne_nil _ _
  all_finite := by decide +kernel

end Sample

end HoldoutLine.Pipeline
