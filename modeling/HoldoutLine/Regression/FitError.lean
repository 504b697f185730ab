/-! # Why a line or a measure cannot be computed

The causes for which fitting a line, or measuring how well predictions fit, has no answer.
-/

namespace HoldoutLine

/-- Why there is no line or no measure. -/
inductive FitError where
  | lengthMismatch (xs ys : Nat)
  | notEnoughPoints (found needed : Nat)
  /-- The predictors do not differ, or not by enough to tell from rounding. -/
  | degeneratePredictor
  | nonFiniteInput
  /-- A measure that compares with the spread of the actual values, when they have none. -/
  | undefinedMetric (name : String)
  | statistic (problem : String)
  deriving DecidableEq, Repr

namespace FitError

/-- Whether the input can support no line at all. -/
def isDegenerateInput : FitError → Bool
  | .notEnoughPoints .. => true
  | .degeneratePredictor => true
  | _ => false

def message : FitError → String
  | .lengthMismatch xs ys => s!"x and y have different lengths: {xs} vs {ys}"
  | .notEnoughPoints found needed => s!"degenerate input: got {found} points, need at least {needed}"
  | .degeneratePredictor => "degenerate input: no variance in predictor"
  | .nonFiniteInput => "input contains NaN or infinite values"
  | .undefinedMetric name => s!"{name} is undefined: zero variance in actual values"
  | .statistic problem => s!"statistical error: {problem}"

end FitError

end HoldoutLine
