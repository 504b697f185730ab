import HoldoutLine.Decimal.Notation
import HoldoutLine.Regression.FitError
import HoldoutLine.Scalar

/-! # Least-squares lines

The line that `Line.train` fits to two columns: its slope is the sum of products of deviations over the
sum of squared deviations of the predictor, and it runs through the point of means. A predictor whose
squared deviations are no larger than the rounding of its squares is refused.
-/

namespace HoldoutLine

/-- The line of all points `(x, slope * x + intercept)`. -/
structure Line (α : Type) where
  intercept : α
  slope : α
  deriving DecidableEq

/-- The sums of squares that a fit rests on. -/
structure Spread (α : Type) where
  /-- Squared deviations of the predictor from its mean. -/
  xx : α
  /-- Products of the deviations of predictor and target. -/
  xy : α
  /-- Squares of the predictor itself. -/
  squares : α

namespace Spread

variable {α : Type} [Scalar α]

def none : Spread α := ⟨Scalar.zero, Scalar.zero, Scalar.zero⟩

/-- One more point, given the means. -/
def add (meanX meanY : α) (spread : Spread α) (point : α × α) : Spread α :=
  let dx := point.1 - meanX
  ⟨spread.xx + dx * dx, spread.xy + dx * (point.2 - meanY), spread.squares + point.1 * point.1⟩

def ofColumns (meanX meanY : α) (x y : List α) : Spread α :=
  (x.zip y).foldl (add meanX meanY) none

/-- Whether the predictor varies too little for a line. -/
def isDegenerate (spread : Spread α) : Bool :=
  !Scalar.isFinite spread.xx || Scalar.isZero spread.xx ||
    Scalar.atMost spread.xx (Scalar.roundoff * spread.squares)

end Spread

namespace Line

variable {α : Type} [Scalar α]

def predict (line : Line α) (x : α) : α := line.slope * x + line.intercept

/-- The least-squares line of `y` on `x`. -/
def train (x y : List α) : Except FitError (Line α) :=
  if x.length ≠ y.length then .error (.lengthMismatch x.length y.length)
  else if x.length < 2 then .error (.notEnoughPoints x.length 2)
  else if (x ++ y).any fun v => !Scalar.isFinite v then .error .nonFiniteInput
  else
    let meanX := Scalar.mean x
    let meanY := Scalar.sum y / Scalar.ofCount x.length
    let spread := Spread.ofColumns meanX meanY x y
    if spread.isDegenerate then .error .degeneratePredictor
    else
      let slope := spread.xy / spread.xx
      .ok ⟨meanY - slope * meanX, slope⟩

/-- The line as an equation with four decimal places. -/
def text (line : Line Float) : String :=
  "y = " ++ fixedText 4 line.slope ++ " * x + " ++ fixedText 4 line.intercept

end Line

end HoldoutLine
