import HoldoutLine.Proofs.Pipeline.Stages

/-! # When a pass fails

The rows of a dataset are finite and so are the rows left to train on, and the rows held out are never none.
That closes most ways to fail for every dataset, however large its values are and whatever coefficients come out
of the training. `Failure` lists what is left: no rows can be held out, one row is left to train on, or training
refuses its columns for the spread of the predictor.
-/

namespace HoldoutLine.Pipeline

/-- How a pass over a dataset fails, and when. -/
inductive Failure (dataset : Dataset) (plan : HoldoutPlan) : PipelineError → Prop where
  /-- No rows can be held out. -/
  | refused {cause : HoldoutError} (refusal : Holdout.ofDataset plan dataset = .error cause) :
      Failure dataset plan (.holdout cause)
  /-- Rows are held out, and one is left to train on. -/
  | singleRow {holdout : Holdout} (held : Holdout.ofDataset plan dataset = .ok holdout)
      (single : holdout.train.length = 1) : Failure dataset plan (.fit (.notEnoughPoints 1 2))
  /-- Rows are held out, and training refuses the others for the spread of their predictors. -/
  | degenerate {holdout : Holdout} (held : Holdout.ofDataset plan dataset = .ok holdout)
      (degenerate : Line.train (holdout.train.map Observation.predictor) (holdout.train.map Observation.target) =
        .error .degeneratePredictor) :
      Failure dataset plan (.fit .degeneratePredictor)

variable {dataset : Dataset} {plan : HoldoutPlan}

/-- Two training rows or more are refused for their spread, and only for that. -/
theorem train_degenerate_iff {holdout : Holdout} (held : Holdout.ofDataset plan dataset = .ok holdout) :
    Line.train (holdout.train.map Observation.predictor) (holdout.train.map Observation.target) =
        .error .degeneratePredictor ↔
      2 ≤ holdout.train.length ∧ FittedLine.lacksSpread holdout.train = true := by
  have comparable := FittedLine.comparable_columns (Holdout.train_finite held)
  rw [Line.train_eq_degenerate_iff comparable, List.length_map, FittedLine.lacksSpread]

private theorem failure_of_report {failure : PipelineError} (failed : report dataset plan = .error failure) :
    Failure dataset plan failure := by
  cases held : Holdout.ofDataset plan dataset with
  | error cause =>
    rw [report_of_refused held] at failed
    cases failed
    exact .refused held
  | ok holdout =>
    rw [report_of_held held] at failed
    split_ifs at failed with single lacking
    · cases failed
      exact .singleRow held single
    · cases failed
      have present := List.length_pos_iff.mpr (Holdout.train_ne_nil held)
      exact .degenerate held ((train_degenerate_iff held).mpr ⟨by omega, lacking⟩)

private theorem report_of_failure {failure : PipelineError} (failing : Failure dataset plan failure) :
    report dataset plan = .error failure := by
  cases failing with
  | refused refusal => exact report_of_refused refusal
  | singleRow held single => rw [report_of_held held, if_pos single]
  | degenerate held degenerate =>
    obtain ⟨several, lacking⟩ := (train_degenerate_iff held).mp degenerate
    rw [report_of_held held, if_neg (by omega), if_pos lacking]

/-- A pass fails in the ways of `Failure` and in no other, and without one of them it ends in a report. No
undefined measure and no assessment ever fails it, and training fails it for one row or for lack of spread. -/
theorem report_fails_exactly (dataset : Dataset) (plan : HoldoutPlan) :
    (∀ failure, report dataset plan = .error failure ↔ Failure dataset plan failure) ∧
    ((∃ outcome, report dataset plan = .ok outcome) ↔ ∀ failure, ¬ Failure dataset plan failure) ∧
    (∀ failure, report dataset plan = .error failure →
      (∃ cause, failure = .holdout cause) ∨ failure = .fit (.notEnoughPoints 1 2) ∨
        failure = .fit .degeneratePredictor) ∧
    (∀ holdout, Holdout.ofDataset plan dataset = .ok holdout →
      (report dataset plan = .error (.fit .degeneratePredictor) ↔
        2 ≤ holdout.train.length ∧ FittedLine.lacksSpread holdout.train = true)) := by
  refine ⟨fun failure => ⟨failure_of_report, report_of_failure⟩, ⟨?_, ?_⟩, ?_, ?_⟩
  · rintro ⟨outcome, reported⟩ failure failing
    rw [report_of_failure failing] at reported
    cases reported
  · intro sound
    cases reported : report dataset plan with
    | ok outcome => exact ⟨outcome, rfl⟩
    | error failure => exact (sound failure (failure_of_report reported)).elim
  · intro failure failed
    cases failure_of_report failed with
    | refused _ => exact .inl ⟨_, rfl⟩
    | singleRow _ _ => exact .inr (.inl rfl)
    | degenerate _ _ => exact .inr (.inr rfl)
  · intro holdout held
    rw [← train_degenerate_iff held]
    constructor
    · intro failed
      cases failure_of_report failed with
      | degenerate alsoHeld degenerate =>
        cases held.symm.trans alsoHeld
        exact degenerate
    · intro degenerate
      exact report_of_failure (.degenerate held degenerate)

end HoldoutLine.Pipeline
