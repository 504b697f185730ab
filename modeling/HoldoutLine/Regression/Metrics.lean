import HoldoutLine.Regression.FitError
import HoldoutLine.Scalar

/-! # Measures of fit

How well predictions fit actual values: mean squared and mean absolute error, the share of variance
explained (R²) and its adjustment for the number of predictors, and the Akaike criterion.
-/

namespace HoldoutLine.Metrics

open Scalar

variable {α : Type} [Scalar α]

def squaredResiduals (actual predicted : List α) : α :=
  sum (List.zipWith (fun a p => square (a - p)) actual predicted)

def absoluteResiduals (actual predicted : List α) : α :=
  sum (List.zipWith (fun a p => magnitude (a - p)) actual predicted)

/-- The sum of the squared deviations of the actual values from their mean. -/
def squaredDeviations (actual : List α) : α :=
  let center := mean actual
  sum (actual.map fun a => square (a - center))

/-- Whether two columns can be compared: of one length, and not empty. -/
def comparable (actual predicted : List α) : Bool :=
  actual.length == predicted.length && !actual.isEmpty

def meanSquaredError? (actual predicted : List α) : Option α :=
  if comparable actual predicted then
    some (squaredResiduals actual predicted / ofCount actual.length)
  else none

def meanAbsoluteError? (actual predicted : List α) : Option α :=
  if comparable actual predicted then
    some (absoluteResiduals actual predicted / ofCount actual.length)
  else none

def rootMeanSquaredError? (actual predicted : List Float) : Option Float :=
  (meanSquaredError? actual predicted).map Float.sqrt

def rSquaredName : String := "R²"

/-- The share of the actual values' variance that the predictions explain; undefined when there is none. -/
def rSquared (actual predicted : List α) : Except FitError α :=
  if actual.length ≠ predicted.length then
    .error (.lengthMismatch actual.length predicted.length)
  else if actual.isEmpty then .error (.notEnoughPoints 0 1)
  else
    let residual := squaredResiduals actual predicted
    let total := squaredDeviations actual
    if isZero total then .error (.undefinedMetric rSquaredName)
    else .ok (one - residual / total)

/-- R² of at least two values, if it is defined. -/
def rSquared? (actual predicted : List α) : Option α :=
  if actual.length < 2 then none else (rSquared actual predicted).toOption

/-- The number of fitted coefficients: one for each predictor, and the intercept. Counts are words of 64
bits, and the count after the largest is zero. -/
def coefficients (predictors : Nat) : Nat := (predictors + 1) % (1 <<< 64)

/-- R² adjusted for `predictors` fitted to `points`; left alone where nothing remains to adjust by. -/
def adjustedRSquared (r2 : α) (points predictors : Nat) : α :=
  if points ≤ coefficients predictors then r2
  else one - (one - r2) * (ofCount points - one) / (ofCount points - ofCount predictors - one)

/-- The Akaike criterion of a residual sum of squares; a perfect fit has an infinite one. -/
def akaike (residual : Float) (points parameters : Nat) : Float :=
  if residual ≤ 0.0 ∨ points = 0 then 1.0 / 0.0
  else
    Float.ofNat points * (residual / Float.ofNat points).log + 2.0 * Float.ofNat parameters

end HoldoutLine.Metrics
