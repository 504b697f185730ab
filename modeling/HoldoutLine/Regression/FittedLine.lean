import HoldoutLine.Dataset.Basic
import HoldoutLine.Regression.Line
import HoldoutLine.Regression.Metrics
import HoldoutLine.Regression.StudentT

/-! # Fitted lines and their diagnostics

A least-squares line together with what its training rows say about it. A diagnostic that cannot be
computed is absent; none of them turns a fitted line into a failure.
-/

namespace HoldoutLine

/-- A fitted line with its in-sample diagnostics. -/
structure FittedLine where
  line : Line Float
  /-- The number of training rows. -/
  rows : Nat
  r2 : Option Float
  adjustedR2 : Option Float
  /-- The residual standard error. -/
  sigma : Option Float
  /-- The two-sided p-value of the slope. -/
  pValue : Option Float
  /-- The Akaike criterion. -/
  aic : Float
  rmse : Float
  deriving DecidableEq

namespace FittedLine

def fittedValues (line : Line Float) (x : List Float) : List Float := x.map line.predict

def residualSum (line : Line Float) (x y : List Float) : Float :=
  Metrics.squaredResiduals y (fittedValues line x)

/-- The degrees of freedom that the residuals of a line keep: one for each row, less the two coefficients. -/
def freedom (x : List Float) : Float := Float.ofNat x.length - 2.0

/-- The residual standard error of a line with a sum of squared residuals. -/
def residualError (x : List Float) (residual : Float) : Float := (residual / freedom x).sqrt

/-- The standard error of the slope of a line with a sum of squared residuals. -/
def slopeError (x : List Float) (residual : Float) : Float :=
  residualError x residual / (Metrics.squaredDeviations x).sqrt

/-- The residual standard error and the two-sided p-value of the slope, under the distributions of the slope
over its standard error by degrees of freedom. Two points leave no residual degree of freedom, and a perfect
fit has no p-value. -/
def slopeSignificance (distribution : Float → Option (Float → Float)) (x : List Float) (line : Line Float)
    (residual : Float) : Option Float × Option Float :=
  if Float.ofNat x.length ≤ 2.0 then (none, none)
  else
    let sigma := residualError x residual
    if !sigma.isFinite then (none, none)
    else
      let error := slopeError x residual
      if !error.isFinite || error ≤ 0.0 then (some sigma, none)
      else (some sigma, StudentT.twoSided distribution (freedom x) (line.slope / error))

/-- A line with the diagnostics of the columns it was fitted to. -/
def diagnose (line : Line Float) (x y : List Float) : FittedLine :=
  let fitted := fittedValues line x
  let residual := residualSum line x y
  let r2 := Metrics.rSquared? y fitted
  let significance := slopeSignificance StudentT.distribution x line residual
  { line
    rows := x.length
    r2
    adjustedR2 := r2.map fun r2 => Metrics.adjustedRSquared r2 x.length 1
    sigma := significance.1
    pValue := significance.2
    aic := Metrics.akaike residual x.length 2
    rmse := (Metrics.rootMeanSquaredError? y fitted).getD 0.0 }

/-- The least-squares line of `y` on `x` with its diagnostics. -/
def ofColumns (x y : List Float) : Except FitError FittedLine :=
  (Line.train x y).map fun line => diagnose line x y

def ofObservations (observations : List Observation) : Except FitError FittedLine :=
  ofColumns (observations.map Observation.predictor) (observations.map Observation.target)

/-- The equation, the number of rows, and R² if it is defined. -/
def text (fit : FittedLine) : String :=
  let equation := fit.line.text
  let share := match fit.r2 with
    | some r2 => ", r2: " ++ fixedText 4 r2
    | none => ""
  s!"{equation}, n: {fit.rows}" ++ share

end FittedLine

end HoldoutLine
