import HoldoutLine.Binary64
import HoldoutLine.Dataset.Basic
import HoldoutLine.Random.Shuffle

/-! # Holding out rows for testing

A `HoldoutPlan` says what share of the rows to hold out and which seed shuffles them. The first rows of
the shuffled order are the test rows, the others the training rows, both kept in that order. The order
depends on the seed and the number of rows only.
-/

namespace HoldoutLine

/-- What share of the rows is held out, and the seed of the shuffle. -/
structure HoldoutPlan where
  testFraction : Float := 0.2
  seed : UInt64 := 42
  deriving DecidableEq

inductive HoldoutError where
  | invalidFraction (fraction : Float)
  | emptyPartition (total : Nat) (fraction : Float) (train test : Nat)
  deriving DecidableEq

def HoldoutError.message : HoldoutError → String
  | .invalidFraction fraction =>
    let fraction := NumberLayout.report.text fraction
    s!"test fraction must be between 0 and 1 (exclusive), got {fraction}"
  | .emptyPartition total fraction train test =>
    let fraction := NumberLayout.report.text fraction
    s!"split of {total} rows at {fraction} leaves {train} train and {test} test rows"

/-- How many of `total` rows are held out: the product of the fraction and the number of rows as a double,
rounded to the nearest count. -/
def HoldoutPlan.testSize (plan : HoldoutPlan) (total : Nat) : Nat :=
  ((Binary64.ofFloat plan.testFraction).scaleCount total).roundToCount

/-- Training and test rows, with the dataset rows they are. -/
structure Holdout where
  trainIndices : List Nat
  testIndices : List Nat
  train : List Observation
  test : List Observation
  deriving DecidableEq

namespace Holdout

def pick (rows : Array Observation) (indices : List Nat) : List Observation :=
  indices.filterMap fun i => rows[i]?

/-- Hold rows of a dataset out; the first of the shuffled rows are the test rows. -/
def ofDataset (plan : HoldoutPlan) (dataset : Dataset) : Except HoldoutError Holdout :=
  let fraction := plan.testFraction
  if 0.0 < fraction ∧ fraction < 1.0 then
    let total := dataset.size
    let test := plan.testSize total
    let train := total - test
    if test = 0 ∨ train = 0 then .error (.emptyPartition total fraction train test)
    else
      let order := Shuffle.seededOrder plan.seed total
      let rows := dataset.observations.toArray
      let testIndices := order.take test
      let trainIndices := order.drop test
      .ok ⟨trainIndices, testIndices, pick rows trainIndices, pick rows testIndices⟩
  else .error (.invalidFraction fraction)

end Holdout

end HoldoutLine
