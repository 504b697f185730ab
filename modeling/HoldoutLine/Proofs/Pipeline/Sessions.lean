import HoldoutLine.Proofs.Except
import HoldoutLine.Proofs.Pipeline.Stages
import HoldoutLine.Workbench
import Mathlib.Logic.Relation

/-! # Work step by step

The steps of the workbench are those of the pipeline: holding rows out of the dataset at hand, fitting a line to the
training rows and assessing it on the test rows makes the fit and the assessment of the report, or fails where the
report does (`stages_eq_report`).

Whatever steps are taken in whatever order, the rows at hand are finite and never none: `Sound.step` for one step,
`sound_of_session` for a session. So an assessment can only lack something to work on, and a fit can only lack points
or spread besides (`errors_of_session`).
-/

namespace HoldoutLine

/-- What a failed stage of the pipeline is to the workbench. -/
def WorkbenchError.ofStage : PipelineError → WorkbenchError
  | .dataset cause => .dataset cause
  | .holdout cause => .holdout cause
  | .fit cause => .fit cause
  | .assessment cause => .assessment cause

namespace Workbench

/-- The three stages, one step after the other. -/
def stages (bench : Workbench) (plan : HoldoutPlan) : Except WorkbenchError (FittedLine × Assessment) := do
  let (_, bench) ← bench.holdOut plan
  let (fitted, bench) ← bench.fit .train
  let assessment ← bench.assess .test
  return (fitted, assessment)

/-- A step that was taken: something new is put to hand. -/
inductive Step (bench : Workbench) : Workbench → Prop where
  | setDataset (dataset : Dataset) : Step bench (bench.setDataset dataset)
  | setLine (line : Line Float) : Step bench (bench.setLine line)
  | narrow {selection : Selection} {count : Option Nat} {dataset : Dataset} {after : Workbench}
      (done : bench.narrow selection count = .ok (dataset, after)) : Step bench after
  | rename {predictorName targetName : String} {dataset : Dataset} {after : Workbench}
      (done : bench.rename predictorName targetName = .ok (dataset, after)) : Step bench after
  | holdOut {plan : HoldoutPlan} {holdout : Holdout} {after : Workbench}
      (done : bench.holdOut plan = .ok (holdout, after)) : Step bench after
  | fit {selection : Selection} {fitted : FittedLine} {after : Workbench}
      (done : bench.fit selection = .ok (fitted, after)) : Step bench after

/-- Rows that a line can be assessed on. -/
structure Usable (rows : List Observation) : Prop where
  present : rows ≠ []
  finite : ∀ row ∈ rows, row.isFinite = true

/-- All rows at hand can be worked on. -/
def Sound (bench : Workbench) : Prop := ∀ selection rows, bench.rows selection = .ok rows → Usable rows

variable {bench after : Workbench} {dataset : Dataset} {plan : HoldoutPlan} {holdout : Holdout} {selection : Selection}
  {rows : List Observation}

section Outcomes

private theorem holdOut_eq (here : bench.dataset = some dataset) : bench.holdOut plan =
    ((Holdout.ofDataset plan dataset).mapError .holdout).map fun holdout =>
      (holdout, { bench with holdout := some holdout }) := by
  rw [holdOut, here]
  simp only [need, bind, Except.bind]
  cases Holdout.ofDataset plan dataset <;> rfl

private theorem fit_eq (picked : bench.rows selection = .ok rows) : bench.fit selection =
    ((FittedLine.ofObservations rows).mapError .fit).map fun fitted => (fitted, bench.setLine fitted.line) := by
  rw [fit, picked]
  simp only [bind, Except.bind]
  cases FittedLine.ofObservations rows <;> rfl

private theorem assess_eq {line : Line Float} (here : bench.line = some line)
    (picked : bench.rows selection = .ok rows) :
    bench.assess selection = (Assessment.ofObservations line rows).mapError .assessment := by
  rw [assess, here, picked]
  rfl

/-- The stages make what the report tells, and fail as it does. -/
theorem stages_eq_report (here : bench.dataset = some dataset) (plan : HoldoutPlan) :
    bench.stages plan = ((Pipeline.report dataset plan).map fun report => (report.fit, report.assessment)).mapError
      WorkbenchError.ofStage := by
  have report : Pipeline.report dataset plan = (Pipeline.run dataset plan).result := rfl
  simp only [report, Pipeline.run, Logged.result_bind, Logged.result_note, Logged.result_pure, Pipeline.result_holdOut,
    Pipeline.result_fit, Pipeline.result_assess]
  rw [stages, holdOut_eq here]
  cases Holdout.ofDataset plan dataset with
  | error cause => rfl
  | ok holdout =>
    simp only [Except.mapError, Except.map, bind, Except.bind]
    rw [@fit_eq _ .train holdout.train rfl]
    cases FittedLine.ofObservations holdout.train with
    | error cause => rfl
    | ok fitted =>
      simp only [Except.mapError, Except.map]
      rw [@assess_eq _ .test holdout.test fitted.line rfl rfl]
      cases Assessment.ofObservations fitted.line holdout.test <;> rfl

end Outcomes

section Sessions

/-- A step puts a dataset, a line or rows held out of a dataset to hand, and keeps all else. -/
theorem Step.cases (step : Step bench after) :
    (∃ dataset, after = bench.setDataset dataset) ∨ (∃ line, after = bench.setLine line) ∨
      ∃ plan dataset holdout, Holdout.ofDataset plan dataset = .ok holdout ∧
        after = { bench with holdout := some holdout } := by
  cases step with
  | setDataset dataset => exact .inl ⟨dataset, rfl⟩
  | setLine line => exact .inr (.inl ⟨line, rfl⟩)
  | narrow done =>
    obtain ⟨dataset, -, done⟩ := bind_eq_ok_iff.mp done
    obtain ⟨rows, -, done⟩ := bind_eq_ok_iff.mp done
    obtain ⟨narrowed, -, done⟩ := bind_eq_ok_iff.mp done
    cases done
    exact .inl ⟨_, rfl⟩
  | rename done =>
    obtain ⟨dataset, -, done⟩ := bind_eq_ok_iff.mp done
    cases done
    exact .inl ⟨_, rfl⟩
  | holdOut done =>
    obtain ⟨dataset, -, done⟩ := bind_eq_ok_iff.mp done
    obtain ⟨made, held, done⟩ := bind_eq_ok_iff.mp done
    cases done
    exact .inr (.inr ⟨_, dataset, _, mapError_eq_ok_iff.mp held, rfl⟩)
  | fit done =>
    obtain ⟨rows, -, done⟩ := bind_eq_ok_iff.mp done
    obtain ⟨fitted, -, done⟩ := bind_eq_ok_iff.mp done
    cases done
    exact .inr (.inl ⟨_, rfl⟩)

private theorem usable_observations (dataset : Dataset) : Usable dataset.observations :=
  ⟨dataset.observations_ne_nil, dataset.all_finite⟩

/-- A step keeps the rows at hand or replaces them by those of a dataset or of a holdout. -/
theorem Sound.step (sound : bench.Sound) (step : Step bench after) : after.Sound := by
  intro selection rows picked
  rcases step.cases with ⟨dataset, rfl⟩ | ⟨line, rfl⟩ | ⟨plan, dataset, holdout, held, rfl⟩
  · cases selection with
    | all =>
      cases picked
      exact usable_observations dataset
    | train => exact sound .train rows picked
    | test => exact sound .test rows picked
  · cases selection with
    | all => exact sound .all rows picked
    | train => exact sound .train rows picked
    | test => exact sound .test rows picked
  · cases selection with
    | all => exact sound .all rows picked
    | train =>
      cases picked
      exact ⟨Holdout.train_ne_nil held, Holdout.train_finite held⟩
    | test =>
      cases picked
      exact ⟨Holdout.test_ne_nil held, Holdout.test_finite held⟩

/-- No session comes to rows that cannot be worked on. -/
theorem sound_of_session (session : Relation.ReflTransGen Step empty bench) : bench.Sound := by
  induction session with
  | refl =>
    intro selection rows picked
    cases selection <;> cases picked
  | tail _ step ih => exact ih.step step

private theorem rows_eq_error {cause : WorkbenchError} (missing : bench.rows selection = .error cause) :
    cause = .nothingAtHand := by
  have needed : ∀ {α : Type} {value? : Option α}, need value? = .error cause → cause = .nothingAtHand := by
    intro α value? missing
    cases value? <;> cases missing
    rfl
  cases selection with
  | all => exact needed (map_eq_error_iff.mp missing)
  | train => exact needed (map_eq_error_iff.mp missing)
  | test => exact needed (map_eq_error_iff.mp missing)

/-- In a session an assessment fails only if there is nothing at hand, and a fit only if there is nothing at hand, a
single point or no spread. -/
theorem errors_of_session (session : Relation.ReflTransGen Step empty bench) (selection : Selection) :
    (∀ cause, bench.assess selection = .error cause → cause = .nothingAtHand) ∧
      ∀ cause, bench.fit selection = .error cause →
        cause = .nothingAtHand ∨ cause = .fit (.notEnoughPoints 1 2) ∨ cause = .fit .degeneratePredictor := by
  cases picked : bench.rows selection with
  | error missing =>
    obtain rfl := rows_eq_error picked
    refine ⟨fun cause failed => ?_, fun cause failed => .inl ?_⟩
    · rw [assess, picked] at failed
      cases here : bench.line <;> rw [here] at failed <;> cases failed <;> rfl
    · rw [fit, picked] at failed
      cases failed
      rfl
  | ok rows =>
    obtain ⟨present, finite⟩ := sound_of_session session selection rows picked
    refine ⟨fun cause failed => ?_, fun cause failed => .inr ?_⟩
    · cases here : bench.line with
      | none =>
        rw [assess, here] at failed
        cases failed
        rfl
      | some line =>
        rw [assess_eq here picked, Assessment.ofObservations_of_ne_nil line present] at failed
        cases failed
    · have single : rows.length < 2 → rows.length = 1 := by
        have := List.length_pos_iff.mpr present
        omega
      rw [fit_eq picked, FittedLine.ofObservations_of_finite finite] at failed
      split_ifs at failed with few lacking
      · cases failed
        exact .inl (by rw [single few])
      · cases failed
        exact .inr rfl
      · cases failed

end Sessions

end Workbench

end HoldoutLine
