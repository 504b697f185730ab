import HoldoutLine.Proofs.Command.Outcomes
import HoldoutLine.Proofs.Except

/-! # The run that names no source

The bundled table is a dataset (`Dataset.exists_bundled`), so a run that names no source is never without one. If it
names no share and no seed either, it always succeeds, whatever it can see and in whichever form its report is to be
printed: `Command.outcome_of_bundled`.
-/

namespace HoldoutLine

section Bundled

/-- Whether a score is within its range. -/
def IsScore (most score : Float) : Prop := 0.0 ≤ score ∧ score ≤ most

instance (most score : Float) : Decidable (IsScore most score) := inferInstanceAs (Decidable (_ ∧ _))

private theorem bundled_evaluated : Dataset.bundled.toOption.map (fun dataset =>
    ((dataset.predictorName, dataset.targetName, dataset.size),
      dataset.observations.all fun o => IsScore 125.0 o.predictor ∧ IsScore 100.0 o.target,
      (Pipeline.report dataset {}).toOption.isSome)) = some (("midterm", "final", 43), true, true) := by decide +kernel

/-- The bundled table holds forty-three pairs of scores, each within its range. -/
theorem Dataset.exists_bundled : ∃ dataset, bundled = .ok dataset ∧ dataset.predictorName = "midterm" ∧
    dataset.targetName = "final" ∧ dataset.size = 43 ∧
    ∀ o ∈ dataset.observations, IsScore 125.0 o.predictor ∧ IsScore 100.0 o.target := by
  obtain ⟨dataset, loaded, facts⟩ := Option.map_eq_some_iff.mp bundled_evaluated
  simp only [Prod.mk.injEq, List.all_eq_true, decide_eq_true_eq] at facts
  obtain ⟨⟨predictor, target, size⟩, scores, -⟩ := facts
  exact ⟨dataset, toOption_eq_some_iff.mp loaded, predictor, target, size, scores⟩

/-- A line can be fitted to the bundled table and assessed. -/
theorem Pipeline.exists_report_bundled : ∃ dataset report, Dataset.bundled = .ok dataset ∧
    Pipeline.report dataset {} = .ok report := by
  obtain ⟨dataset, loaded, facts⟩ := Option.map_eq_some_iff.mp bundled_evaluated
  simp only [Prod.mk.injEq] at facts
  obtain ⟨report, made⟩ := Option.isSome_iff_exists.mp facts.2.2
  exact ⟨dataset, report, toOption_eq_some_iff.mp loaded, toOption_eq_some_iff.mp made⟩

end Bundled

namespace Command

private theorem result_load_bundled (surroundings : Surroundings) :
    (Source.bundled.load surroundings).result = Dataset.bundled := by
  have given := gives_load surroundings .bundled
  generalize (Source.bundled.load surroundings).result = outcome at given
  cases given
  rfl

private theorem outcome_of_report {invocation : Invocation} {surroundings : Surroundings} {report : Report}
    (result : (invocation.report surroundings).result = .ok report) :
    (invocation.outcome surroundings).exitCode = 0 ∧
      (invocation.outcome surroundings).output = invocation.render report := by
  unfold Invocation.outcome
  dsimp only
  rw [result]
  exact ⟨rfl, rfl⟩

/-- A run that names no source and keeps to the default plan prints its report and ends well, whatever it can see. -/
theorem outcome_of_bundled {invocation : Invocation} (source : invocation.source = .bundled)
    (plan : invocation.plan = {}) (surroundings : Surroundings) : ∃ dataset report, Dataset.bundled = .ok dataset ∧
      Pipeline.report dataset invocation.plan = .ok report ∧ (invocation.outcome surroundings).exitCode = 0 ∧
        (invocation.outcome surroundings).output = invocation.render report := by
  obtain ⟨dataset, report, loaded, made⟩ := Pipeline.exists_report_bundled
  rw [← plan] at made
  have result : (invocation.report surroundings).result = .ok report := by
    rw [result_report, source, result_load_bundled, loaded]
    simp only [Except.mapError, bind, Except.bind, made]
  exact ⟨dataset, report, loaded, made, outcome_of_report result⟩

end Command

end HoldoutLine
