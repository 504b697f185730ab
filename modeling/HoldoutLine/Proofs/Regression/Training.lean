import HoldoutLine.Regression.FittedLine
import Mathlib.Tactic.SplitIfs

/-! # When training has an answer

Training compares lengths, counts points, looks for values that are not finite and weighs the spread of the
predictor, in that order. `Line.train_of_comparable` says what is left of these checks for the columns of
finite rows: two of them, and otherwise `Line.leastSquares`. What the line says about its rows never fails.
-/

namespace HoldoutLine

namespace Line

section Columns

variable {α : Type} [Scalar α] {x y : List α}

/-- The sums of squares that training on two columns rests on. -/
def spreadOf (x y : List α) : Spread α :=
  Spread.ofColumns (Scalar.mean x) (Scalar.sum y / Scalar.ofCount x.length) x y

/-- The line that training answers with, whatever the columns are. -/
def leastSquares (x y : List α) : Line α :=
  let slope := (spreadOf x y).xy / (spreadOf x y).xx
  ⟨Scalar.sum y / Scalar.ofCount x.length - slope * Scalar.mean x, slope⟩

/-- What the columns of finite rows promise to training. -/
structure Comparable (x y : List α) : Prop where
  same_length : x.length = y.length
  all_finite : ∀ v ∈ x ++ y, Scalar.isFinite v = true

private theorem Comparable.any_nonFinite (comparable : Comparable x y) :
    ((x ++ y).any fun v => !Scalar.isFinite v) = false := by
  rw [List.any_eq_false]
  intro v member
  simp only [comparable.all_finite v member, Bool.not_true, Bool.false_eq_true, not_false_eq_true]

/-- Comparable columns fail training for too few points or too little spread, and for nothing else. -/
theorem train_of_comparable (comparable : Comparable x y) :
    train x y =
      if x.length < 2 then .error (.notEnoughPoints x.length 2)
      else if (spreadOf x y).isDegenerate then .error .degeneratePredictor
      else .ok (leastSquares x y) := by
  rw [train, if_neg fun mismatch => mismatch comparable.same_length, comparable.any_nonFinite]
  rfl

/-- Training succeeds on comparable columns of two points or more only. -/
theorem comparable_of_train {line : Line α} (trained : train x y = .ok line) : Comparable x y ∧ 2 ≤ x.length := by
  rw [train] at trained
  split_ifs at trained with mismatch few nonFinite
  refine ⟨⟨Decidable.not_not.mp mismatch, fun v member => ?_⟩, Nat.not_lt.mp few⟩
  have all := List.any_eq_false.mp (Bool.not_eq_true _ |>.mp nonFinite) v member
  rwa [Bool.not_eq_true', Bool.not_eq_false] at all

/-- The spread of the predictor refuses comparable columns exactly if there are points enough to have one. -/
theorem train_eq_degenerate_iff (comparable : Comparable x y) :
    train x y = .error .degeneratePredictor ↔ 2 ≤ x.length ∧ (spreadOf x y).isDegenerate = true := by
  rw [train_of_comparable comparable]
  split_ifs with few degenerate
  · exact iff_of_false (by simp) fun refused => by omega
  · exact iff_of_true rfl ⟨by omega, degenerate⟩
  · exact iff_of_false (by simp) fun refused => degenerate refused.2

end Columns

end Line

namespace FittedLine

variable {rows : List Observation}

/-- The least-squares line of rows with its diagnostics, whatever the rows are. -/
def fitted (rows : List Observation) : FittedLine :=
  let x := rows.map Observation.predictor
  let y := rows.map Observation.target
  diagnose (Line.leastSquares x y) x y

/-- Whether the predictors of rows vary too little for a line. -/
def lacksSpread (rows : List Observation) : Bool :=
  (Line.spreadOf (rows.map Observation.predictor) (rows.map Observation.target)).isDegenerate

theorem comparable_columns (finite : ∀ row ∈ rows, row.isFinite = true) :
    Line.Comparable (rows.map Observation.predictor) (rows.map Observation.target) where
  same_length := by simp only [List.length_map]
  all_finite := by
    intro v member
    rcases List.mem_append.mp member with predictor | target
    · obtain ⟨row, present, rfl⟩ := List.mem_map.mp predictor
      exact (Bool.and_eq_true_iff.mp (finite row present)).1
    · obtain ⟨row, present, rfl⟩ := List.mem_map.mp target
      exact (Bool.and_eq_true_iff.mp (finite row present)).2

/-- Finite rows fail to be fitted for too few of them or too little spread, and for nothing else. -/
theorem ofObservations_of_finite (finite : ∀ row ∈ rows, row.isFinite = true) :
    ofObservations rows =
      if rows.length < 2 then .error (.notEnoughPoints rows.length 2)
      else if lacksSpread rows then .error .degeneratePredictor
      else .ok (fitted rows) := by
  rw [ofObservations, ofColumns, Line.train_of_comparable (comparable_columns finite), List.length_map,
    lacksSpread]
  split_ifs with few degenerate
  · rfl
  · rfl
  · rfl

@[simp] theorem fitted_rows (rows : List Observation) : (fitted rows).rows = rows.length :=
  List.length_map _

end FittedLine

end HoldoutLine
