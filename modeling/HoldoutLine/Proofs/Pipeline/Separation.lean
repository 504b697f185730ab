import HoldoutLine.Proofs.Pipeline.Stages
import Mathlib.Control.Monad.Basic

/-! # Test rows do not leak into the fit

Which rows are held out depends on the number of rows and the plan, so datasets of one size are held out at the
same positions. The training rows stand at the other positions: datasets that agree there have one training part,
and with it one outcome, one fit and, predictor by predictor, one prediction. `Indistinct` relates what two
passes may differ in, which is the test targets and what is measured against them.
-/

namespace HoldoutLine

/-- Two datasets have the same rows at every position that is not in a list; their names are not compared. -/
def Dataset.AgreeOff (positions : List Nat) (first second : Dataset) : Prop :=
  ∀ i, i ∉ positions → first.observations[i]? = second.observations[i]?

namespace Holdout

variable {plan : HoldoutPlan} {first second : Dataset}

/-- One size, one way to hold rows out. -/
theorem held_of_same_size {holdout : Holdout} (sameSize : first.size = second.size)
    (held : ofDataset plan first = .ok holdout) : ofDataset plan second = .ok (parted plan second) := by
  obtain ⟨proper, nonempty, remainder, -⟩ := ofDataset_eq_ok_iff.mp held
  rw [sameSize] at nonempty remainder
  exact ofDataset_of_parts proper nonempty remainder

private theorem parted_indices (plan : HoldoutPlan) (sameSize : first.size = second.size) :
    (parted plan second).testIndices = (parted plan first).testIndices ∧
      (parted plan second).trainIndices = (parted plan first).trainIndices := by
  simp only [parted, sameSize, and_self]

/-- Datasets that agree off the test rows have the same training rows, in the same order. -/
theorem parted_train (sameSize : first.size = second.size) (within : plan.testSize first.size ≤ first.size)
    (agree : first.AgreeOff (parted plan first).testIndices second) :
    (parted plan first).train = (parted plan second).train := by
  have parts := parted_partitions within
  have picked : (parted plan first).train =
      pick first.observations.toArray (parted plan first).trainIndices := rfl
  have alsoPicked : (parted plan second).train =
      pick second.observations.toArray (parted plan second).trainIndices := rfl
  rw [picked, alsoPicked, (parted_indices plan sameSize).2]
  refine List.filterMap_congr fun i member => ?_
  simp only [List.getElem?_toArray]
  exact agree i (parts.notMem_test member)

end Holdout

namespace Pipeline

/-- Two outcomes that only the test rows can tell apart: the same failure, or reports with one fit and one
summary of the holdout whose predictions agree wherever the test rows have the same predictor. -/
inductive Indistinct (firstTest secondTest : List Observation) :
    Except PipelineError Report → Except PipelineError Report → Prop where
  | failed (failure : PipelineError) : Indistinct firstTest secondTest (.error failure) (.error failure)
  | reported {one two : Report} (fit : one.fit = two.fit) (holdout : one.holdout = two.holdout)
      (predicted : ∀ (j : Nat) (x y : Observation), firstTest[j]? = some x → secondTest[j]? = some y →
        x.predictor = y.predictor → ∃ p q : Prediction, one.assessment.predictions[j]? = some p ∧
          two.assessment.predictions[j]? = some q ∧ p.predicted = q.predicted) :
      Indistinct firstTest secondTest (.ok one) (.ok two)

/-- Assembled reports of one training part are told apart by the test rows only. -/
theorem assembled_indistinct {first second : Dataset} (plan : HoldoutPlan) {one two : Holdout}
    (sameTrain : one.train = two.train) (sameCount : one.test.length = two.test.length) :
    Indistinct one.test two.test (.ok (assembled first plan one)) (.ok (assembled second plan two)) := by
  refine .reported ?_ ?_ ?_
  · simp only [assembled, sameTrain]
  · simp only [assembled, sameTrain, sameCount]
  · intro j x y atFirst atSecond samePredictor
    simp only [assembled, Assessment.measured_predictions]
    refine ⟨_, _, Assessment.getElem?_predict atFirst, Assessment.getElem?_predict atSecond, ?_⟩
    simp only [Assessment.predictRow, sameTrain, samePredictor]

/-- Datasets of one size are held out at the same positions. If they agree at all other positions, whatever
their names and test rows are, then their passes fail alike or report the same fit, the same holdout and,
wherever the test rows have the same predictor, the same prediction. -/
theorem report_blind_to_test {plan : HoldoutPlan} {first second : Dataset} {one : Holdout}
    (sameSize : first.size = second.size) (held : Holdout.ofDataset plan first = .ok one) :
    ∃ two, Holdout.ofDataset plan second = .ok two ∧
      two.testIndices = one.testIndices ∧ two.trainIndices = one.trainIndices ∧
      (first.AgreeOff one.testIndices second →
        Indistinct one.test two.test (report first plan) (report second plan)) := by
  obtain ⟨-, -, remainder, rfl⟩ := Holdout.ofDataset_eq_ok_iff.mp held
  have alsoHeld := Holdout.held_of_same_size sameSize held
  have sameIndices := Holdout.parted_indices plan sameSize
  refine ⟨Holdout.parted plan second, alsoHeld, sameIndices.1, sameIndices.2, ?_⟩
  intro agree
  have sameTrain := Holdout.parted_train sameSize remainder.le agree
  have sameCount : (Holdout.parted plan first).test.length = (Holdout.parted plan second).test.length := by
    rw [(Holdout.partitions_of_held held).length_test, (Holdout.partitions_of_held alsoHeld).length_test,
      sameSize]
  rw [report_of_held held, report_of_held alsoHeld, ← sameTrain]
  split_ifs with single lacking
  · exact .failed _
  · exact .failed _
  · exact assembled_indistinct plan sameTrain sameCount

/-- `fourRows` under other names, with the rows changed that `halfPlan` holds out. -/
def fourRowsRetested : Dataset where
  predictorName := "hours"
  targetName := "score"
  observations := [⟨9.0, -1.0⟩, ⟨2.0, 50.0⟩, ⟨3.0, 7.0⟩, ⟨4.0, 8.0⟩]
  observations_ne_nil := List.cons_ne_nil _ _
  all_finite := by decide +kernel

def fourRowsHoldout : Holdout where
  trainIndices := [3, 2]
  testIndices := [1, 0]
  train := [⟨4.0, 8.0⟩, ⟨3.0, 7.0⟩]
  test := [⟨2.0, 4.0⟩, ⟨1.0, 2.0⟩]

private theorem fourRowsRetested_agrees : fourRows.AgreeOff fourRowsHoldout.testIndices fourRowsRetested := by
  intro i other
  match i with
  | 0 | 1 => simp [fourRowsHoldout] at other
  | _ + 2 => simp only [fourRows, fourRowsRetested, List.getElem?_cons_succ]

theorem fourRowsRetested_indistinct :
    fourRows.size = fourRowsRetested.size ∧ Holdout.ofDataset halfPlan fourRows = .ok fourRowsHoldout ∧
      fourRows.AgreeOff fourRowsHoldout.testIndices fourRowsRetested ∧
      ∃ two, Holdout.ofDataset halfPlan fourRowsRetested = .ok two ∧ two.testIndices = [1, 0] ∧
        two.trainIndices = [3, 2] ∧
        Indistinct fourRowsHoldout.test two.test (report fourRows halfPlan) (report fourRowsRetested halfPlan) := by
  have held : Holdout.ofDataset halfPlan fourRows = .ok fourRowsHoldout := by decide +kernel
  have sameSize : fourRows.size = fourRowsRetested.size := by decide
  obtain ⟨two, alsoHeld, test, train, indistinct⟩ := report_blind_to_test sameSize held
  exact ⟨sameSize, held, fourRowsRetested_agrees, two, alsoHeld, test, train, indistinct fourRowsRetested_agrees⟩

end Pipeline

end HoldoutLine
